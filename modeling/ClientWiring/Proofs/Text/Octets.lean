import Mathlib.Data.List.Basic
set_option autoImplicit false

/-! The bytes of a text, as a list: those of its characters one after the other. -/

namespace ClientWiring.Text

theorem toList_eq_data (bytes : ByteArray) : bytes.toList = bytes.data.toList := by
  have loop (i : Nat) (done : List UInt8) :
      ByteArray.toList.loop bytes i done = done.reverse ++ bytes.data.toList.drop i := by
    fun_induction ByteArray.toList.loop bytes i done with
    | case1 i done inside ih =>
        have bound : i < bytes.data.toList.length := by simpa using inside
        have step : bytes.data.toList.drop i = bytes.get! i :: bytes.data.toList.drop (i + 1) := by
          rw [List.drop_eq_getElem_cons bound]
          congr 1
          simp [ByteArray.get!, inside]
        rw [ih, step, List.reverse_cons, List.append_assoc, List.singleton_append]
    | case2 i done outside =>
        have past : bytes.data.toList.length ≤ i := by simpa using outside
        rw [List.drop_eq_nil_of_le past, List.append_nil]
  exact loop 0 []

theorem toUTF8_append (first second : String) :
    (first ++ second).toUTF8.toList = first.toUTF8.toList ++ second.toUTF8.toList := by
  simp only [toList_eq_data, String.toUTF8, String.toByteArray_append, ByteArray.toList_data_append]

theorem toUTF8_ofList (cs : List Char) :
    (String.ofList cs).toUTF8.toList = cs.flatMap String.utf8EncodeChar := by
  rw [toList_eq_data, String.toUTF8, String.toByteArray_ofList, List.utf8Encode,
    List.toList_data_toByteArray]

end ClientWiring.Text
