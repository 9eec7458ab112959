import ClientWiring.Crypto.Sha1
import ClientWiring.Formats.Der
import ClientWiring.Formats.Pem
import ClientWiring.Store.Library
import ClientWiring.Text.Units
set_option autoImplicit false

/-! Stores in the formats JKS and JCEKS: a list of entries under names, closed by a digest over the
password and all bytes before it. The first bytes tell the two formats apart. -/

namespace ClientWiring.Jks

/-- An entry: a private key with its certificates, or a trusted certificate. A key that the password
of the store does not open stays locked. -/
inductive Entry where
  | key (entry : JavaKey)
  | trusted (certificate : List UInt8)
  deriving DecidableEq, Repr, Inhabited

def takeBytes? (count : Nat) (bytes : List UInt8) : Option (List UInt8 × List UInt8) :=
  if bytes.length < count then none else some (bytes.take count, bytes.drop count)

def number? (width : Nat) (bytes : List UInt8) : Option (Nat × List UInt8) :=
  (takeBytes? width bytes).map fun (number, rest) => (Crypto.natOfBytes number, rest)

def counted? (width : Nat) (bytes : List UInt8) : Option (List UInt8 × List UInt8) :=
  (number? width bytes).bind fun (count, rest) => takeBytes? count rest

def text? (bytes : List UInt8) : Option (String × List UInt8) := do
  let (text, rest) ← counted? 2 bytes
  pure (← Pem.text? text, rest)

def certificate? (bytes : List UInt8) : Option (List UInt8 × List UInt8) := do
  let (_, rest) ← text? bytes
  counted? 4 rest

def chain? : (count : Nat) → List UInt8 → Option (List (List UInt8) × List UInt8)
  | 0, bytes => some ([], bytes)
  | k + 1, bytes => do
    let (certificate, bytes) ← certificate? bytes
    let (rest, bytes) ← chain? k bytes
    pure (certificate :: rest, bytes)

/-- The stream of `count` digests that hides a key, each made from the one before it. -/
def keyStream (password : List UInt8) : (count : Nat) → List UInt8 → List UInt8
  | 0, _ => []
  | k + 1, last =>
    let next := Crypto.Sha1.digest (password ++ last)
    next ++ keyStream password k next

/-- A key hidden under a password: the start of the stream, the hidden bytes, and a digest over the
password and the key. -/
def unlock? (password hidden : List UInt8) : Option (List UInt8) :=
  let start := hidden.take 20
  let body := (hidden.drop 20).take (hidden.length - 40)
  let check := hidden.drop (hidden.length - 20)
  let key := Crypto.xorBytes body (keyStream password ((body.length + 19) / 20) start)
  if Crypto.Sha1.digest (password ++ key) = check then some key else none

def hiddenKey? (bytes : List UInt8) : Option (List UInt8) := do
  match ← (← Der.Element.ofBytes? bytes).sequence? with
  | [algorithm, hidden] =>
    let algorithm ← Der.Algorithm.ofElement? algorithm
    if algorithm.identifier = [1, 3, 6, 1, 4, 1, 42, 2, 17, 1, 1] then hidden.octets? else none
  | _ => none

/-- The next entry, with its name. -/
def entry? (password : List UInt8) (bytes : List UInt8) :
    Option ((String × Entry) × List UInt8) := do
  let (kind, bytes) ← number? 4 bytes
  let (name, bytes) ← text? bytes
  let (_, bytes) ← takeBytes? 8 bytes
  match kind with
  | 1 =>
    let (description, bytes) ← counted? 4 bytes
    let (count, bytes) ← number? 4 bytes
    let (chain, bytes) ← chain? count bytes
    pure ((name, .key ⟨name, unlock? password (← hiddenKey? description), chain⟩), bytes)
  | 2 =>
    let (certificate, bytes) ← certificate? bytes
    pure ((name, .trusted certificate), bytes)
  | _ => none

def entriesFrom? (password : List UInt8) :
    (count : Nat) → List UInt8 → Option (List (String × Entry) × List UInt8)
  | 0, bytes => some ([], bytes)
  | k + 1, bytes => do
    let (entry, bytes) ← entry? password bytes
    let (rest, bytes) ← entriesFrom? password k bytes
    pure (entry :: rest, bytes)

def whitening : List UInt8 :=
  Pem.octets "Mighty Aphrodite"

/-- The entries of a store, in their order; nothing if the content is malformed, a name is repeated,
or the password is wrong. Bytes after the digest are passed over. -/
def entries? (bytes : List UInt8) (password : String) : Option (List Entry) := do
  let password := Text.unitBytes password
  let (magic, rest) ← number? 4 bytes
  let (version, rest) ← number? 4 rest
  let (count, rest) ← number? 4 rest
  let (entries, rest) ← entriesFrom? password count rest
  let (digest, _) ← takeBytes? 20 rest
  let before := bytes.take (bytes.length - rest.length)
  if (magic = 0xFEEDFEED ∨ magic = 0xCECECECE) ∧ version = 2 ∧ (entries.map Prod.fst).Nodup ∧
      Crypto.Sha1.digest (password ++ whitening ++ before) = digest then
    pure (entries.map Prod.snd)
  else none

def store? (bytes : List UInt8) (password : String) : Option JavaStore :=
  (entries? bytes password).map fun entries =>
    { keys := entries.filterMap fun entry =>
        match entry with
        | .key key => some key
        | .trusted _ => none
      certificates := entries.filterMap fun entry =>
        match entry with
        | .key _ => none
        | .trusted certificate => some certificate }

end ClientWiring.Jks
