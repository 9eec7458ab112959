import ClientWiring.Config.Error
import ClientWiring.Config.Setting
import ClientWiring.Text.Hex
set_option autoImplicit false

/-! The grammar of typed keys. After the namespace and a point a key is the name of a global
setting, or an owner, a point and the name of a setting; an owner that holds points stands in double
quotes. One line break may end the key. -/

namespace ClientWiring

inductive GlobalSetting where
  | multipartPostEncoderMode
  | disableSmartProduces
  deriving DecidableEq, Repr

namespace GlobalSetting

def all : List GlobalSetting := [multipartPostEncoderMode, disableSmartProduces]

def kebab : GlobalSetting → String
  | multipartPostEncoderMode => "multipart-post-encoder-mode"
  | disableSmartProduces => "disable-smart-produces"

def field : GlobalSetting → String
  | multipartPostEncoderMode => "multipart_post_encoder_mode"
  | disableSmartProduces => "disable_smart_produces"

def ofKebab? (name : String) : Option GlobalSetting :=
  all.find? fun setting => setting.kebab == name

def kind : GlobalSetting → Kind
  | multipartPostEncoderMode => .text
  | disableSmartProduces => .flag

end GlobalSetting

inductive TypedKey where
  | foreign
  | everywhere (setting : GlobalSetting)
  | lookedUp
  /-- A setting of one client, by its name, which need not be a known one. -/
  | client (owner setting : String)
  | malformed
  deriving DecidableEq, Repr

namespace TypedKey

def lookedUpNames : List String := ["max-redirects"]

def isNameChar (c : Char) : Bool :=
  (0x61 ≤ c.toNat && c.toNat ≤ 0x7A) || Text.isAsciiDigit c || c == '-'

def settingName? (cs : List Char) : Option String :=
  let name := cs.takeWhile isNameChar
  let rest := cs.dropWhile isNameChar
  if !name.isEmpty && (rest.isEmpty || rest == ['\n']) then some (String.ofList name) else none

def ownerAndSetting? : List Char → Option (String × String)
  | '"' :: cs =>
    let owner := cs.takeWhile (· != '"')
    match cs.dropWhile (· != '"') with
    | '"' :: '.' :: rest =>
      if owner.isEmpty then none
      else (settingName? rest).map fun setting => (String.ofList owner, setting)
    | _ => none
  | cs =>
    let inOwner (c : Char) : Bool := c != '.' && c != '"'
    let owner := cs.takeWhile inOwner
    match cs.dropWhile inOwner with
    | '.' :: rest =>
      if owner.isEmpty then none
      else (settingName? rest).map fun setting => (String.ofList owner, setting)
    | _ => none

def afterStart? : List Char → List Char → Option (List Char)
  | [], cs => some cs
  | p :: start, c :: cs => if p = c then afterStart? start cs else none
  | _ :: _, [] => none

def parse (key : String) : TypedKey :=
  match afterStart? (configNamespace ++ ".").toList key.toList with
  | none => .foreign
  | some rest =>
    match GlobalSetting.ofKebab? (String.ofList rest) with
    | some setting => .everywhere setting
    | none =>
      match ownerAndSetting? rest with
      | some (owner, setting) => .client owner setting
      | none => if lookedUpNames.contains (String.ofList rest) then .lookedUp else .malformed

end TypedKey

def typedKey (owner name : String) : String :=
  configNamespace ++ ".\"" ++ owner ++ "\"." ++
    String.ofList (name.toList.map fun c => if c == '_' then '-' else c)

def legacyKey (owner setting : String) : String :=
  owner ++ "/mp-rest/" ++ setting

end ClientWiring
