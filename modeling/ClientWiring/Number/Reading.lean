import ClientWiring.Number.Double
import ClientWiring.Text.Blank
import ClientWiring.Text.DecimalDigit
import ClientWiring.Text.Hex
set_option autoImplicit false

/-! Numbers read from text. A whole number is an optional sign and a run of digits with single
underscores between them, padded by white space. Two readings are built on that rule: the general
one takes digits of every script, the one for settings takes ASCII digits and tolerates a fraction
of zeros. Both refuse numbers of more than 4300 digits. -/

namespace ClientWiring.Number

inductive WholeError where
  | malformed
  | tooLong (digits : Nat)
  deriving DecidableEq, Repr

def digitLimit : Nat := 4300

/-- A run of digits with single underscores between them and the text that follows it. There is none
where the run is empty or an underscore is the first, the last or the second in a row. -/
def digitRun (digit? : Char → Option Nat) (afterDigit : Bool) :
    List Char → Option (List Nat × List Char)
  | [] => if afterDigit then some ([], []) else none
  | c :: rest =>
    match digit? c with
    | some d => (digitRun digit? true rest).map fun run => (d :: run.1, run.2)
    | none =>
      if c = '_' then (if afterDigit then digitRun digit? false rest else none)
      else if afterDigit then some ([], c :: rest) else none

/-- The number that a list of digits denotes, most significant first. -/
def ofDigits (digits : List Nat) : Nat :=
  digits.foldl (fun value d => 10 * value + d) 0

def splitSign : List Char → Bool × List Char
  | '-' :: rest => (true, rest)
  | '+' :: rest => (false, rest)
  | cs => (false, cs)

def signed (negative : Bool) (n : Nat) : Int :=
  if negative then -(n : Int) else n

/-- The whole number that a text denotes, with decimal digits of any script. -/
def readWhole (s : List Char) : Except WholeError Int :=
  let (negative, body) := splitSign (Text.stripChars Text.isWhiteSpace s)
  match digitRun Text.decimalDigit? false body with
  | none => .error .malformed
  | some (digits, rest) =>
    if digitLimit < digits.length then .error (.tooLong digits.length)
    else if rest.isEmpty then .ok (signed negative (ofDigits digits))
    else .error .malformed

def asciiDigit? (c : Char) : Option Nat :=
  if Text.isAsciiDigit c then some (c.toNat - 0x30) else none

def isZeroFraction : List Char → Bool
  | '.' :: zeros => !zeros.isEmpty && zeros.all (· == '0')
  | _ => false

/-- The whole number that the text of a setting denotes: ASCII digits, and a fraction of zeros is
allowed. Leading zeros do not count towards the limit. -/
def readSetting (s : List Char) : Except WholeError Int :=
  let (negative, body) := splitSign (Text.stripChars Text.isWhiteSpace s)
  match digitRun asciiDigit? false body with
  | none => .error .malformed
  | some (digits, rest) =>
    let count := (digits.dropWhile (· == 0)).length
    let whole := rest.isEmpty || isZeroFraction rest
    if digitLimit < count && (whole || rest.head? != some '.') then .error (.tooLong count)
    else if whole then .ok (signed negative (ofDigits digits))
    else .error .malformed

end ClientWiring.Number

namespace ClientWiring.Double

def readExponent : List Char → Option Int
  | mark :: rest =>
    if mark == 'e' || mark == 'E' then
      let (negative, digits) := Number.splitSign rest
      if digits.isEmpty then none
      else
        (digits.mapM Number.asciiDigit?).map fun ds =>
          Number.signed negative (Number.ofDigits ds)
    else none
  | [] => some 0

/-- The number nearest to a decimal numeral with an optional fraction and exponent; the words `inf`,
`infinity` and `nan` are read in any case. -/
def ofText? (s : String) : Option Double :=
  let (negative, body) := Number.splitSign s.toList
  let word := (String.ofList body).map Char.toLower
  if word == "inf" || word == "infinity" then some (.infinite negative)
  else if word == "nan" then some .nan
  else
    let whole := body.takeWhile Text.isAsciiDigit
    let afterWhole := body.dropWhile Text.isAsciiDigit
    let (fraction, tail) := match afterWhole with
      | '.' :: rest => (rest.takeWhile Text.isAsciiDigit, rest.dropWhile Text.isAsciiDigit)
      | rest => ([], rest)
    if whole.isEmpty && fraction.isEmpty then none
    else do
      let power ← readExponent tail
      let digits ← (whole ++ fraction).mapM Number.asciiDigit?
      pure (ofDecimal negative (Number.ofDigits digits) (power - fraction.length))

end ClientWiring.Double
