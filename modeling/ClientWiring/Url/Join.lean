import ClientWiring.Url.Parse
set_option autoImplicit false

/-! Following a reference from a URL. A reference without a scheme is read relative to the URL that
it stands in: what it leaves out is taken from there, and a path that does not start with a slash
goes on from the last slash. -/

namespace ClientWiring.Url

/-- The parts of a text that references are joined by. The last segment of a path may end in
parameters behind a semicolon. -/
structure Reference where
  scheme : List Char
  netloc : List Char
  path : List Char
  parameters : List Char
  query : List Char
  fragment : List Char
  deriving DecidableEq, Repr, Inhabited

namespace Reference

def relativeSchemes : List String := [
  "", "ftp", "http", "gopher", "nntp", "imap", "wais", "file", "https", "shttp", "mms", "prospero",
  "rtsp", "rtsps", "rtspu", "sftp", "svn", "svn+ssh", "ws", "wss"]

def authoritySchemes : List String := [
  "", "ftp", "http", "gopher", "nntp", "telnet", "imap", "wais", "file", "mms", "https", "shttp",
  "snews", "prospero", "rtsp", "rtsps", "rtspu", "rsync", "svn", "svn+ssh", "sftp", "nfs", "git",
  "git+ssh", "ws", "wss", "itms-services"]

def parameterSchemes : List String := [
  "", "ftp", "hdl", "prospero", "http", "imap", "https", "shttp", "rtsp", "rtsps", "rtspu", "sip",
  "sips", "mms", "sftp", "tel"]

/-- A path and the parameters behind the first semicolon of its last segment. -/
def splitParameters (path : List Char) : List Char × List Char :=
  let (front, last) :=
    match splitLast? '/' path with
    | some (before, after) => (before ++ ['/'], after)
    | none => ([], path)
  match splitBefore [';'] last with
  | (segment, _ :: parameters) => (front ++ segment, parameters)
  | (_, []) => (path, [])

def ofText (scheme text : List Char) : Reference :=
  let (own, rest) :=
    match splitScheme text with
    | ([], _) => (scheme, text)
    | (own, rest) => (own.map Char.toLower, rest)
  let (netloc, rest) := splitSlashed rest
  let (rest, fragment) := splitBefore ['#'] rest
  let (path, query) := splitBefore ['?'] rest
  let (path, parameters) :=
    if parameterSchemes.contains (String.ofList own) then splitParameters path else (path, [])
  ⟨own, netloc, path, parameters, query.drop 1, fragment.drop 1⟩

def text (r : Reference) : List Char :=
  let path := if r.parameters.isEmpty then r.path else r.path ++ ';' :: r.parameters
  let named := authoritySchemes.contains (String.ofList r.scheme)
  let place :=
    if !r.netloc.isEmpty || (!r.scheme.isEmpty && named && !startsWith ['/', '/'] path) then
      '/' :: '/' :: (r.netloc ++
        (if path.isEmpty || startsWith ['/'] path then path else '/' :: path))
    else path
  (if r.scheme.isEmpty then [] else r.scheme ++ [':']) ++ place ++
    (if r.query.isEmpty then [] else '?' :: r.query) ++
    (if r.fragment.isEmpty then [] else '#' :: r.fragment)

/-- Segments without points; `done` holds those passed, the last one first. A double point takes
away the segment before it, also an empty one. -/
def resolve (done : List (List Char)) : List (List Char) → List (List Char)
  | [] => done.reverse
  | segment :: rest =>
    if segment = ['.', '.'] then resolve done.tail rest
    else if segment = ['.'] then resolve done rest
    else resolve (segment :: done) rest

def withoutGaps : List (List Char) → List (List Char)
  | [] => []
  | first :: rest =>
    match rest.getLast? with
    | none => [first]
    | some last => first :: (rest.dropLast.filter fun segment => !segment.isEmpty) ++ [last]

def joinPath (base path : List Char) : List Char :=
  let directory :=
    match (splitAtChar '/' base).getLast? with
    | some (_ :: _) => (splitAtChar '/' base).dropLast
    | _ => splitAtChar '/' base
  let segments :=
    if startsWith ['/'] path then splitAtChar '/' path
    else withoutGaps (directory ++ splitAtChar '/' path)
  let resolved := resolve [] segments
  let last := segments.getLast?.getD []
  let resolved := if last = ['.'] ∨ last = ['.', '.'] then resolved ++ [[]] else resolved
  let path := ['/'].intercalate resolved
  if path.isEmpty then ['/'] else path

def join (base reference : Reference) : Reference :=
  let netloc :=
    if authoritySchemes.contains (String.ofList reference.scheme) then base.netloc
    else reference.netloc
  if reference.path.isEmpty && reference.parameters.isEmpty then
    { reference with
      netloc := netloc
      path := base.path
      parameters := base.parameters
      query := if reference.query.isEmpty then base.query else reference.query }
  else { reference with netloc := netloc, path := joinPath base.path reference.path }

end Reference

def joinText (base reference : List Char) : List Char :=
  if base.isEmpty then reference
  else if reference.isEmpty then base
  else
    let start := Reference.ofText [] base
    let target := Reference.ofText start.scheme reference
    let scheme := String.ofList target.scheme
    if target.scheme != start.scheme || !Reference.relativeSchemes.contains scheme then reference
    else if Reference.authoritySchemes.contains scheme && !target.netloc.isEmpty then
      target.text
    else (Reference.join start target).text

def join [Idna] (base reference : Url) : Except UrlError Url :=
  parse (String.ofList (joinText base.text.toList reference.text.toList))

end ClientWiring.Url
