import ClientWiring.Proofs.Text.Base64
import ClientWiring.Proofs.Text.Octets
import ClientWiring.Store.Pem
set_option autoImplicit false

/-! The bytes of labelled blocks as they are written: two lines with hyphens, and between them lines
without any. -/

namespace ClientWiring.Pem

/-! ### Texts as bytes -/

theorem octets_append (first second : String) :
    octets (first ++ second) = octets first ++ octets second :=
  Text.toUTF8_append first second

def byteOf (c : Char) : UInt8 :=
  UInt8.ofNat c.toNat

theorem octets_ofList {cs : List Char} (short : ∀ c ∈ cs, c.toNat < 128) :
    octets (String.ofList cs) = cs.map byteOf := by
  have encoded : octets (String.ofList cs) = cs.flatMap String.utf8EncodeChar :=
    Text.toUTF8_ofList cs
  rw [encoded]
  clear encoded
  induction cs with
  | nil => rfl
  | cons c rest ih =>
      rw [List.forall_mem_cons] at short
      have single : String.utf8EncodeChar c = [byteOf c] := by
        have low : c.val.toNat ≤ 127 := Nat.le_of_lt_succ short.1
        rw [String.utf8EncodeChar, if_pos low]
        rfl
      rw [List.flatMap_cons, List.map_cons, single, ih short.2]
      rfl

theorem octets_ascii {text : String} (short : text.toList.all (·.toNat < 128) = true) :
    octets text = text.toList.map byteOf := by
  have each : ∀ c ∈ text.toList, c.toNat < 128 := by simpa using short
  rw [← octets_ofList each, String.ofList_toList]

def hyphen : UInt8 := 0x2D

def lineFeed : UInt8 := 0x0A

theorem byteOf_ne {c d : Char} (short : c.toNat < 128) (short' : d.toNat < 128) (other : c ≠ d) :
    byteOf c ≠ byteOf d := by
  intro same
  have value := congrArg UInt8.toNat same
  rw [byteOf, byteOf, UInt8.toNat_ofNat', UInt8.toNat_ofNat', Nat.mod_eq_of_lt (by omega),
    Nat.mod_eq_of_lt (by omega)] at value
  exact other (Char.toNat_inj.mp value)

theorem byteOf_ne_hyphen {c : Char} (plain : Text.IsPlain c) : byteOf c ≠ hyphen :=
  byteOf_ne plain.short (d := '-') (by decide) plain.unhyphened

theorem octets_dashes : octets "-----" = hyphen :: List.replicate 4 hyphen :=
  octets_ascii (by decide)

theorem octets_beginning :
    octets "-----BEGIN " = hyphen :: (List.replicate 4 hyphen ++ octets "BEGIN ") := by
  rw [octets_ascii (by decide), octets_ascii (by decide)]
  decide

theorem octets_ending :
    octets "-----END " = hyphen :: (List.replicate 4 hyphen ++ octets "END ") := by
  rw [octets_ascii (by decide), octets_ascii (by decide)]
  decide

/-! ### Blocks -/

theorem mem_wrapFrom {cs : List Char} {room : Nat} {c : Char} (member : c ∈ wrapFrom room cs) :
    c = '\n' ∨ c ∈ cs := by
  fun_induction wrapFrom room cs with
  | case1 => exact .inr member
  | case2 d rest ih =>
      rcases List.mem_cons.mp member with break_ | later
      · exact .inl break_
      · rcases List.mem_cons.mp later with same | further
        · exact .inr (List.mem_cons.mpr (.inl same))
        · exact (ih further).imp_right (List.mem_cons_of_mem d)
  | case3 room d rest ih =>
      rcases List.mem_cons.mp member with same | further
      · exact .inr (List.mem_cons.mpr (.inl same))
      · exact (ih further).imp_right (List.mem_cons_of_mem d)

namespace Block

def lines (block : Block) : List UInt8 :=
  (wrapFrom 64 (Text.encodeBase64 block.content)).map byteOf ++ [lineFeed]

/-- The bytes of a block, up to the end of its last line. -/
def armor (block : Block) : List UInt8 :=
  octets "-----BEGIN " ++ (octets block.label ++ (octets "-----" ++
    (lineFeed :: (block.lines ++ (octets "-----END " ++ (octets block.label ++ octets "-----"))))))

theorem isPlain_digits (block : Block) : ∀ c ∈ Text.encodeBase64 block.content, Text.IsPlain c :=
  Text.isPlain_of_mem_encodeBase64 block.content

theorem short_wrapped (block : Block) :
    ∀ c ∈ wrapFrom 64 (Text.encodeBase64 block.content), c.toNat < 128 := by
  intro c member
  rcases mem_wrapFrom member with rfl | digit
  · decide
  · exact (block.isPlain_digits c digit).short

theorem render_eq (block : Block) : block.render =
    "-----BEGIN " ++ block.label ++ "-----\n" ++
      String.ofList (wrapFrom 64 (Text.encodeBase64 block.content)) ++
      "\n-----END " ++ block.label ++ "-----\n" :=
  rfl

theorem octets_render (block : Block) : octets block.render = block.armor ++ [lineFeed] := by
  have endOfLine : octets "-----\n" = octets "-----" ++ [lineFeed] := by
    rw [octets_ascii (by decide), octets_ascii (by decide)]
    decide
  have startOfLine : octets "\n-----END " = lineFeed :: octets "-----END " := by
    rw [octets_ascii (by decide), octets_ascii (by decide)]
    decide
  simp only [render_eq, octets_append, endOfLine, startOfLine, octets_ofList block.short_wrapped,
    armor, lines, List.append_assoc, List.cons_append, List.nil_append]

theorem mem_lines {block : Block} {b : UInt8} (member : b ∈ block.lines) :
    b = lineFeed ∨ ∃ c, Text.IsPlain c ∧ b = byteOf c := by
  rcases List.mem_append.mp member with wrapped | last
  · obtain ⟨c, among, rfl⟩ := List.mem_map.mp wrapped
    rcases mem_wrapFrom among with rfl | digit
    · exact .inl rfl
    · exact .inr ⟨c, block.isPlain_digits c digit, rfl⟩
  · exact .inl (List.mem_singleton.mp last)

theorem hyphen_not_mem_lines (block : Block) : hyphen ∉ block.lines := by
  intro member
  rcases mem_lines member with break_ | ⟨c, plain, same⟩
  · cases break_
  · exact byteOf_ne_hyphen plain same.symm

end Block

/-! ### Files of blocks -/

def written (blocks : List Block) : List UInt8 :=
  blocks.flatMap fun block => octets block.render

theorem written_cons (block : Block) (blocks : List Block) :
    written (block :: blocks) = block.armor ++ (lineFeed :: written blocks) := by
  rw [written, List.flatMap_cons, Block.octets_render, List.append_assoc]
  rfl

end ClientWiring.Pem
