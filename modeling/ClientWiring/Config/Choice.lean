set_option autoImplicit false

/-! The two settings that are chosen from a fixed list of words. A word stands for a choice only in
its exact spelling. -/

namespace ClientWiring

inductive QueryStyle where
  | multiPairs
  /-- `a=1,2` -/
  | commaSeparated
  | arrayPairs
  deriving DecidableEq, Repr, Inhabited

namespace QueryStyle

/-- Every style, in the order in which error texts list them. -/
def all : List QueryStyle := [multiPairs, commaSeparated, arrayPairs]

def name : QueryStyle → String
  | multiPairs => "MULTI_PAIRS"
  | commaSeparated => "COMMA_SEPARATED"
  | arrayPairs => "ARRAY_PAIRS"

def ofName? (word : String) : Option QueryStyle :=
  all.find? fun style => style.name == word

theorem ofName?_name (style : QueryStyle) : ofName? style.name = some style := by
  cases style <;> decide

def typeName : String := "QueryParamStyle"

end QueryStyle

inductive EncoderMode where
  | rfc1738
  | rfc3986
  | html5
  deriving DecidableEq, Repr, Inhabited

namespace EncoderMode

def all : List EncoderMode := [rfc1738, rfc3986, html5]

def name : EncoderMode → String
  | rfc1738 => "RFC1738"
  | rfc3986 => "RFC3986"
  | html5 => "HTML5"

def ofName? (word : String) : Option EncoderMode :=
  all.find? fun mode => mode.name == word

theorem ofName?_name (mode : EncoderMode) : ofName? mode.name = some mode := by
  cases mode <;> decide

def typeName : String := "MultipartEncoderMode"

end EncoderMode

end ClientWiring
