import ClientWiring.Class.Library
import ClientWiring.Class.Verifier
import ClientWiring.Text.Quoted
set_option autoImplicit false

/-! A library of modules to try clients on: filters and verifiers of every shape, modules that break
when they are loaded, and a few modules of the platform. -/

namespace ClientWiring.Sample

def plainClass (module : String) (path : List String) : ClassInfo where
  name := ⟨module, path⟩
  metaclass := Library.classClass
  parameters := .known []
  construct := .ok ⟨⟨module, path⟩, none, none, .absent⟩

def filterClass (module : String) (path : List String) (request : Option RequestFilter)
    (response : Option ResponseFilter) : ClassInfo :=
  { plainClass module path with construct := .ok ⟨⟨module, path⟩, request, response, .absent⟩ }

def headerFilter (change : Headers → Headers) : RequestFilter :=
  ⟨false, fun _ headers => (.ok (change headers), [])⟩

def statusNote (mark : String) : ResponseFilter :=
  ⟨false, fun status => (.ok (), [mark ++ toString status])⟩

def filters : String := "acme.filters"

def missingArgument (name : ClassName) (argument : String) (keyword : Bool) : Thrown :=
  ⟨"TypeError",
    name.qualified ++ ".__init__() missing 1 required " ++
      (if keyword then "keyword-only" else "positional") ++ " argument: '" ++ argument ++ "'"⟩

def needingArgument (name : ClassName) (metaclass : ClassName) (argument : String)
    (keyword : Bool) : ClassInfo where
  name := name
  metaclass := metaclass
  parameters := .known [⟨if keyword then .keywordOnly else .positionalOrKeyword, false⟩]
  construct := .error (missingArgument name argument keyword)

def entry (info : ClassInfo) : List String × Member :=
  (info.name.path, .cls info)

def objectEntry (path : List String) (type : String) : List String × Member :=
  (path, .object ⟨"builtins", [type]⟩)

def filterMembers : List (List String × Member) := [
  entry (filterClass filters ["HeaderFilter"]
    (some (headerFilter fun headers => headers.set "X-Trace" "on")) none),
  entry (filterClass filters ["TagFilter"]
    (some (headerFilter fun headers =>
      headers.set "X-Trace" ((headers.get? "X-Trace").getD "" ++ "+tag"))) none),
  entry (filterClass filters ["StatusFilter"] none (some (statusNote "status:"))),
  entry (filterClass filters ["BothFilter"]
    (some ⟨false, fun method headers => (.ok headers, ["request:" ++ method])⟩)
    (some (statusNote "response:"))),
  entry (filterClass filters ["AsyncFilter"]
    (some ⟨true, fun _ headers => (.ok (headers.set "X-Async" "yes"), [])⟩) none),
  entry (filterClass filters ["RefusingFilter"]
    (some ⟨false, fun _ _ => (.error ⟨"ValueError", "filter refused"⟩, [])⟩) none),
  entry (plainClass filters ["NoHooks"]),
  entry (needingArgument ⟨filters, ["NeedsArg"]⟩ Library.classClass "arg" false),
  entry (plainClass filters ["Outer"]),
  entry (filterClass filters ["Outer", "Inner"]
    (some (headerFilter fun headers => headers.set "X-Inner" "1")) none),
  objectEntry ["Outer", "attribute"] "int",
  objectEntry ["make_filter"] "function",
  objectEntry ["INSTANCE"] "object"]

def verifiers : String := "acme.verifiers"

def verifier (name : String) (verdict : String → Value → Except Thrown Value) : ClassInfo :=
  Verifier.ofVerdict ⟨verifiers, [name]⟩ verdict

def lookalike (name : String) (verifying : Verifying) : ClassInfo :=
  { plainClass verifiers [name] with
    construct := .ok ⟨⟨verifiers, [name]⟩, none, none, verifying⟩ }

def isLocal (host : String) (_ : Value) : Except Thrown Value :=
  .ok (.bool (host == "localhost"))

def accept (_ : String) (_ : Value) : Except Thrown Value :=
  .ok (.bool true)

def verifierNeeding (name argument : String) (keyword : Bool) : ClassInfo :=
  needingArgument ⟨verifiers, [name]⟩ Verifier.abstractMetaclass argument keyword

def verifierMembers : List (List String × Member) := [
  entry (verifier "Localhost" isLocal),
  entry (verifier "RejectAll" fun _ _ => .ok (.bool false)),
  entry (verifier "CertNeeded" fun _ certificate =>
    .ok (.bool (match certificate with | .dict [] => false | _ => true))),
  entry (lookalike "Truthy" (.function fun host _ =>
    .ok (.text (if host.endsWith ".local" then "accepted" else "")))),
  entry (verifierNeeding "WithArgs" "allowed" false),
  entry { verifier "WithDefaults" isLocal with
    parameters := .known [⟨.positionalOrKeyword, true⟩] },
  entry (verifierNeeding "KeywordRequired" "allowed" true),
  entry { verifier "KeywordDefault" accept with parameters := .known [⟨.keywordOnly, true⟩] },
  entry { verifier "VarArgs" accept with
    parameters := .known [⟨.variadicPositional, false⟩, ⟨.variadicKeyword, false⟩] },
  entry { verifierNeeding "HalfDefault" "allowed" false with
    parameters := .known [⟨.positionalOrKeyword, false⟩, ⟨.positionalOrKeyword, true⟩] },
  entry { verifier "Exploding" accept with
    construct := .error ⟨"RuntimeError", "boom"⟩ },
  entry (Verifier.abstractClass ⟨verifiers, ["Abstract"]⟩),
  entry (lookalike "NotAVerifier" .absent),
  entry (lookalike "VerifyNotCallable" (.notCallable "str")),
  entry (lookalike "InstanceVerify" (.function accept)),
  entry (verifier "RaisingVerify" fun host _ => .error ⟨"KeyError", Text.quoted host⟩)]

def platformMembers : List (List String × Member) := [
  entry { plainClass "builtins" ["int"] with parameters := .unknown },
  entry { plainClass "builtins" ["dict"] with parameters := .unknown },
  entry (plainClass "builtins" ["list"]),
  entry (plainClass "builtins" ["object"]),
  entry (Library.builtinType Library.classClass),
  objectEntry ["len"] "builtin_function_or_method",
  objectEntry ["None"] "NoneType"]

def decoder : ClassInfo := plainClass "json.decoder" ["JSONDecoder"]

def package (name : String) (members : List (List String × Member)) : Module :=
  ⟨name, .package, [], members⟩

def namespacePackage (name : String) : Module :=
  ⟨name, .namespacePackage, [], []⟩

def leaf (name : String) (members : List (List String × Member)) : Module :=
  ⟨name, .leaf, [], members⟩

def modules : List Module := [
  package "acme" [entry (plainClass "acme" ["PkgFilter"]), objectEntry ["VALUE"] "int"],
  package "acme.sub" [
    entry (plainClass "acme.sub" ["Widget"]),
    entry (plainClass "acme.sub" ["Widget", "Deep"]),
    entry (plainClass "acme.sub" ["Widget", "Deep", "Deeper"])],
  leaf filters filterMembers,
  leaf verifiers verifierMembers,
  namespacePackage "restclient",
  namespacePackage "restclient.runtime",
  leaf Verifier.module [entry Verifier.base, entry Verifier.noop],
  leaf "restclient.runtime.tls" [],
  package "json" [(["JSONDecoder"], .cls decoder), objectEntry ["dumps"] "function"],
  leaf "json.decoder" [entry decoder],
  leaf "shutil" [],
  leaf "sys" [],
  leaf "builtins" platformMembers,
  ⟨"__main__", .unsearched none, [], []⟩]

def broken : List (String × Thrown) := [
  ("acme.broken_import", ⟨"ImportError", "no such import"⟩),
  ("acme.broken_value", ⟨"ValueError", "bad value at import"⟩),
  ("acme.broken_runtime", ⟨"RuntimeError", "boom at import"⟩)]

def library : Library where
  find path :=
    let name := ".".intercalate path
    match modules.find? fun module => module.name == name with
    | some module => .ok module
    | none =>
      match broken.lookup name with
      | some thrown => .error (.failed thrown)
      | none => .error .notFound

end ClientWiring.Sample
