import ClientWiring.Value.Text
set_option autoImplicit false

/-! Query parameters of a call. A null value drops its parameter; the items of a sequence are
written in one of three styles, and everything else is written as its plain text. The first text that
is refused ends the writing. -/

namespace ClientWiring.QueryStyle

variable [Runtime]

def encodeParam (style : QueryStyle) (name : String) (value : Value) :
    Except WriteError (List (String × String)) :=
  match value with
  | .null => .ok []
  | value =>
    match value.items? with
    | none => value.givenPlain.map fun text => [(name, text)]
    | some items =>
      (items.mapM Value.givenPlain).map fun texts =>
        match style with
        | multiPairs => texts.map fun text => (name, text)
        | commaSeparated => [(name, ",".intercalate texts)]
        | arrayPairs => texts.map fun text => (name ++ "[]", text)

def encodeParams (style : QueryStyle) (params : List (String × Value)) :
    Except WriteError (List (String × String)) :=
  (params.mapM fun param => style.encodeParam param.1 param.2).map List.flatten

end ClientWiring.QueryStyle
