import ClientWiring.Formats.Pem
import ClientWiring.Proofs.Store.Pem
set_option autoImplicit false

/-! Labelled blocks are read back as they were written, in a file that holds them one after the
other and nothing else. -/

namespace ClientWiring.Pem

theorem text?_octets (text : String) : text? (octets text) = some text := by
  have same : (⟨(octets text).toArray⟩ : ByteArray) = text.toByteArray := by
    rw [octets, Text.toList_eq_data]
    rfl
  rw [text?, same, String.fromUTF8?, dif_pos text.isValidUTF8]
  rfl

theorem isGap_byteOf {c : Char} (plain : Text.IsPlain c) : isGap (byteOf c) = false := by
  have differs {d : Char} (blank : Text.isWhiteSpace d = true) (short : d.toNat < 128) :
      byteOf c ≠ byteOf d := by
    refine byteOf_ne plain.short short ?_
    rintro rfl
    exact Bool.false_ne_true (plain.filled.symm.trans blank)
  simp only [isGap, Bool.or_eq_false_iff, beq_eq_false_iff_ne]
  exact ⟨⟨⟨differs (d := ' ') (by decide) (by decide), differs (d := '\t') (by decide) (by decide)⟩,
    differs (d := '\n') (by decide) (by decide)⟩, differs (d := '\r') (by decide) (by decide)⟩

/-! ### Markers -/

section Markers

variable {first : UInt8} {more before : List UInt8}

theorem seekFrom_append (absent : first ∉ before) (seen rest : List UInt8) :
    seekFrom (first :: more) (first :: more) seen (before ++ rest) =
      seekFrom (first :: more) (first :: more) (before.reverse ++ seen) rest := by
  induction before generalizing seen with
  | nil => rfl
  | cons b before ih =>
      rw [List.mem_cons, not_or] at absent
      rw [List.cons_append, seekFrom, if_neg (Ne.symm absent.1), ih absent.2, List.reverse_cons,
        List.append_assoc, List.singleton_append]

theorem seekFrom_left (marker left seen rest : List UInt8) :
    seekFrom marker left seen (left ++ rest) =
      some (((left.reverse ++ seen).drop marker.length).reverse, rest) := by
  induction left generalizing seen with
  | nil => cases rest <;> rfl
  | cons b left ih =>
      rw [List.cons_append, seekFrom, if_pos rfl, ih, List.reverse_cons, List.append_assoc,
        List.singleton_append]

/-- A marker is found behind bytes of which none could start it. -/
theorem seek_append {marker : List UInt8} (starts : marker = first :: more)
    (absent : first ∉ before) (rest : List UInt8) :
    seek marker (before ++ (marker ++ rest)) = some (before, rest) := by
  rw [starts, seek, seekFrom_append absent, seekFrom_left, ← List.length_reverse, List.drop_left,
    List.append_nil, List.reverse_reverse]

theorem seek_of_absent (absent : first ∉ before) : seek (first :: more) before = none := by
  rw [← List.append_nil before, seek, seekFrom_append absent, seekFrom,
    if_neg (List.cons_ne_nil _ _)]

end Markers

/-! ### Lines -/

section Lines

variable {cs : List Char}

theorem filter_wrapFrom (plain : ∀ c ∈ cs, Text.IsPlain c) (room : Nat) :
    (wrapFrom room cs).filter (fun c => !Text.isWhiteSpace c) = cs := by
  fun_induction wrapFrom room cs with
  | case1 => rfl
  | case2 c rest ih =>
      rw [List.forall_mem_cons] at plain
      rw [List.filter_cons_of_neg (by decide), List.filter_cons_of_pos (by simp [plain.1.filled]),
        ih plain.2]
  | case3 room c rest ih =>
      rw [List.forall_mem_cons] at plain
      rw [List.filter_cons_of_pos (by simp [plain.1.filled]), ih plain.2]

/-- No line of a wrapped text is empty. -/
theorem seek_emptyLine (plain : ∀ c ∈ cs, Text.IsPlain c) (room : Nat) :
    seek [lineFeed, lineFeed] ((wrapFrom room cs).map byteOf ++ [lineFeed]) = none := by
  have unbroken {c : Char} (plain : Text.IsPlain c) : byteOf c ≠ lineFeed := by
    intro same
    have gap := isGap_byteOf plain
    rw [same] at gap
    cases gap
  have from_ (seen : List UInt8) : seekFrom [lineFeed, lineFeed] [lineFeed, lineFeed] seen
      ((wrapFrom room cs).map byteOf ++ [lineFeed]) = none := by
    fun_induction wrapFrom room cs generalizing seen with
    | case1 => rfl
    | case2 c rest ih =>
        rw [List.forall_mem_cons] at plain
        have starts : byteOf '\n' = lineFeed := rfl
        rw [List.map_cons, List.map_cons, List.cons_append, List.cons_append, seekFrom, starts,
          if_pos rfl, seekFrom, if_neg (unbroken plain.1), ih plain.2]
    | case3 room c rest ih =>
        rw [List.forall_mem_cons] at plain
        rw [List.map_cons, List.cons_append, seekFrom, if_neg (unbroken plain.1), ih plain.2]
  exact from_ []

end Lines

/-! ### Blocks -/

namespace Block

structure Sound (block : Block) : Prop where
  labelled : block.label ≠ ""
  unhyphened : hyphen ∉ octets block.label

/-- What is read between the two lines with the label: empty lines in front of it are passed
over. -/
def body (block : Block) : List UInt8 :=
  block.lines.dropWhile isGap

def frame (block : Block) : Frame :=
  ⟨octets block.label, block.body, octets block.label⟩

theorem body_of_filled {block : Block} (filled : block.content ≠ []) :
    block.body = block.lines := by
  have plain := block.isPlain_digits
  have digits := Text.encodeBase64_ne_nil filled
  unfold body lines
  cases encoded : Text.encodeBase64 block.content with
  | nil => exact absurd encoded digits
  | cons c cs =>
      rw [encoded, List.forall_mem_cons] at plain
      exact List.dropWhile_cons_of_neg (by rw [isGap_byteOf plain.1]; exact nofun)

theorem body_of_empty {block : Block} (empty : block.content = []) : block.body = [] := by
  rw [body, lines, empty]
  rfl

theorem hyphen_not_mem_body (block : Block) : hyphen ∉ block.body :=
  fun member => block.hyphen_not_mem_lines ((List.dropWhile_suffix isGap).subset member)

theorem dropWhile_lines (block : Block) (rest : List UInt8) :
    (lineFeed :: (block.lines ++ (octets "-----END " ++ rest))).dropWhile isGap =
      block.body ++ (octets "-----END " ++ rest) := by
  have gap : isGap lineFeed = true := rfl
  have stop : (octets "-----END " ++ rest).dropWhile isGap = octets "-----END " ++ rest := by
    rw [octets_ending]
    exact List.dropWhile_cons_of_neg (by decide)
  rw [List.dropWhile_cons_of_pos gap, List.dropWhile_append, stop, body]
  split
  next passed => rw [List.isEmpty_iff.mp passed, List.nil_append]
  next => rfl

/-- A block at the beginning of bytes is found, and after it the gap behind it is passed over. -/
theorem nextFrame_armor {block : Block} (sound : block.Sound) (rest : List UInt8) :
    nextFrame (block.armor ++ rest) = some (block.frame, rest.dropWhile isGap) := by
  have opened := seek_append octets_beginning (List.not_mem_nil (a := hyphen))
  have labelled := seek_append octets_dashes sound.unhyphened
  have finished := seek_append octets_ending block.hyphen_not_mem_body
  simp only [List.nil_append] at opened
  simp only [nextFrame, armor, List.append_assoc, List.cons_append, opened, labelled,
    Option.bind_eq_bind, Option.bind_some, dropWhile_lines, finished, frame, Option.pure_def]

theorem headersRead_nil : Frame.headersRead [] = true := by
  have split : "".splitOn "\n" = [""] := by
    unfold String.splitOn
    rw [if_neg (by decide), String.splitOnAux, if_pos (by decide)]
    decide
  have nothing : octets "" = [] := octets_ascii (by decide)
  have read : text? [] = some "" := by rw [← nothing, text?_octets]
  simp only [Frame.headersRead, read, split]
  decide

theorem parts_frame (block : Block) : block.frame.parts = ([], block.body) := by
  have lines : octets "\n\n" = [lineFeed, lineFeed] := octets_ascii (by decide)
  have returns : octets "\r\n\r\n" = [0x0D, 0x0A, 0x0D, 0x0A] := octets_ascii (by decide)
  rw [Frame.parts, lines, returns]
  by_cases empty : block.content = []
  · have nothing : block.frame.body = [] := body_of_empty empty
    rw [nothing, body_of_empty empty]
    rfl
  · have unbroken : seek [lineFeed, lineFeed] block.lines = none :=
      seek_emptyLine block.isPlain_digits 64
    have returned : seek [0x0D, 0x0A, 0x0D, 0x0A] block.lines = none := by
      apply seek_of_absent
      intro member
      rcases mem_lines member with break_ | ⟨c, plain, same⟩
      · cases break_
      · have gap := isGap_byteOf plain
        rw [← same] at gap
        cases gap
    have whole : block.frame.body = block.lines := body_of_filled empty
    simp only [whole, body_of_filled empty, unbroken, returned, Option.getD_none]

theorem text?_body (block : Block) : ∃ text, text? block.body = some text ∧
    text.toList.filter (fun c => !Text.isWhiteSpace c) = Text.encodeBase64 block.content := by
  by_cases empty : block.content = []
  · refine ⟨"", ?_, ?_⟩
    · rw [body_of_empty empty, ← text?_octets, octets_ascii (by decide)]
      rfl
    · rw [empty]
      decide
  · have short : ∀ c ∈ wrapFrom 64 (Text.encodeBase64 block.content) ++ ['\n'], c.toNat < 128 := by
      intro c member
      rcases List.mem_append.mp member with wrapped | last
      · exact block.short_wrapped c wrapped
      · cases List.mem_singleton.mp last
        decide
    have written : block.lines =
        octets (String.ofList (wrapFrom 64 (Text.encodeBase64 block.content) ++ ['\n'])) := by
      rw [octets_ofList short, List.map_append]
      rfl
    refine ⟨_, by rw [body_of_filled empty, written, text?_octets], ?_⟩
    rw [String.toList_ofList, List.filter_append, filter_wrapFrom block.isPlain_digits]
    exact List.append_nil _

theorem block?_frame {block : Block} (sound : block.Sound) : block.frame.block? = some block := by
  have labelled : block.label.isEmpty = false := by simpa using sound.labelled
  have label : text? block.frame.opening = some block.label := text?_octets block.label
  have closing : text? block.frame.closing = some block.label := text?_octets block.label
  obtain ⟨text, read, digits⟩ := block.text?_body
  simp only [Frame.block?, label, closing, parts_frame, Option.bind_eq_bind, Option.bind_some,
    labelled, bne_self_eq_false, headersRead_nil, Bool.not_true, Bool.or_false, Bool.false_eq_true,
    if_false, read, digits, Text.decodeBase64?_encodeBase64, Option.pure_def]

end Block

/-! ### Files of blocks -/

theorem dropWhile_written (blocks : List Block) :
    (lineFeed :: written blocks).dropWhile isGap = written blocks := by
  rw [List.dropWhile_cons_of_pos rfl]
  cases blocks with
  | nil => rfl
  | cons block blocks =>
      rw [written_cons, Block.armor, octets_beginning]
      exact List.dropWhile_cons_of_neg (by decide)

theorem frames_armor {block : Block} (sound : block.Sound) (rest : List UInt8) :
    frames (block.armor ++ rest) = block.frame :: frames (rest.dropWhile isGap) := by
  have shorter : (rest.dropWhile isGap).length < (block.armor ++ rest).length := by
    have kept := (List.dropWhile_suffix isGap (l := rest)).length_le
    have longer : 0 < block.armor.length := by
      rw [Block.armor, octets_beginning]
      exact Nat.succ_pos _
    rw [List.length_append]
    omega
  rw [frames, Block.nextFrame_armor sound]
  exact if_pos shorter

theorem frames_nil : frames [] = [] := by
  have nothing : nextFrame [] = none := by
    rw [nextFrame, octets_beginning, seek_of_absent List.not_mem_nil]
    rfl
  rw [frames, nothing]

theorem frames_written {blocks : List Block} (sound : ∀ block ∈ blocks, block.Sound) :
    frames (written blocks) = blocks.map Block.frame := by
  induction blocks with
  | nil => exact frames_nil
  | cons block blocks ih =>
      rw [List.forall_mem_cons] at sound
      rw [written_cons, frames_armor sound.1, dropWhile_written, ih sound.2, List.map_cons]

/-- Blocks that are written one after the other are read back in the same order. -/
theorem readBlocks_written {blocks : List Block} (sound : ∀ block ∈ blocks, block.Sound) :
    readBlocks (written blocks) = some blocks := by
  rw [readBlocks, frames_written sound]
  induction blocks with
  | nil => rfl
  | cons block blocks ih =>
      rw [List.forall_mem_cons] at sound
      rw [List.map_cons, List.mapM_cons, Block.block?_frame sound.1, ih sound.2]
      rfl

end ClientWiring.Pem
