import ClientWiring.Proofs.Text.Octets
import ClientWiring.Proofs.Text.Split
import ClientWiring.Url.Parse
set_option autoImplicit false

/-! The query of a URL. Every text is written in one front, perhaps a query and perhaps a fragment,
and reading it gives the URL of the front with these two. So a text without its query reads as the
same URL without one, and a change of the query changes nothing else. -/

namespace ClientWiring.Url

/-! ### Splitting at marks -/

section Split

variable {marks cs rest : List Char}

theorem splitBefore_append (begins : ∀ c, rest.head? = some c → c ∈ marks) (cs : List Char) :
    splitBefore marks (cs ++ rest) = ((splitBefore marks cs).1, (splitBefore marks cs).2 ++ rest) := by
  have stops : ∀ c, rest.head? = some c → (!marks.contains c) = false := by
    intro c first
    rw [List.contains_eq_mem, decide_eq_true (begins c first)]
    rfl
  obtain ⟨before, behind⟩ := Text.takeWhile_append_stop stops cs
  rw [splitBefore, before, behind, splitBefore]

theorem splitBefore_free (free : ∀ c ∈ cs, c ∉ marks) : splitBefore marks cs = (cs, []) := by
  have inside : ∀ c ∈ cs, (!marks.contains c) = true := by
    intro c member
    rw [List.contains_eq_mem, decide_eq_false (free c member)]
    rfl
  rw [splitBefore, List.takeWhile_eq_self_iff.mpr inside, List.dropWhile_eq_nil_iff.mpr inside]

theorem splitBefore_spec (marks cs : List Char) :
    (splitBefore marks cs).1 ++ (splitBefore marks cs).2 = cs ∧
    (∀ c ∈ (splitBefore marks cs).1, c ∉ marks) ∧
    ∀ c, (splitBefore marks cs).2.head? = some c → c ∈ marks := by
  refine ⟨List.takeWhile_append_dropWhile, ?_, ?_⟩
  · intro c member marked
    have free := List.mem_takeWhile_imp member
    rw [List.contains_eq_mem, decide_eq_true marked] at free
    cases free
  · intro c first
    have stops := List.head?_dropWhile_not (fun c => !marks.contains c) cs
    rw [show (cs.dropWhile fun c => !marks.contains c).head? = some c from first] at stops
    exact List.contains_iff_mem.mp ((Bool.not_eq_false' ..).mp stops)

end Split

/-! ### Written texts -/

def marked (mark : Char) : Option (List Char) → List Char
  | none => []
  | some part => mark :: part

structure Written (cs front : List Char) (query fragment : Option (List Char)) : Prop where
  text : cs = front ++ (marked '?' query ++ marked '#' fragment)
  front_free : ∀ c ∈ front, c ∉ ['?', '#']
  query_free : ∀ part, query = some part → ∀ c ∈ part, c ∉ ['#']

theorem begins_marked {mark : Char} {part : Option (List Char)} (c : Char)
    (first : (marked mark part).head? = some c) : c ∈ [mark] := by
  cases part with
  | none => cases first
  | some part =>
      cases first
      exact List.mem_singleton_self mark

theorem exists_marked {mark : Char} {cs : List Char}
    (begins : ∀ c, cs.head? = some c → c ∈ [mark]) : ∃ part, cs = marked mark part := by
  cases cs with
  | nil => exact ⟨none, rfl⟩
  | cons c rest =>
      obtain rfl := List.mem_singleton.mp (begins c rfl)
      exact ⟨some rest, rfl⟩

theorem exists_written (cs : List Char) :
    ∃ front query fragment, Written cs front query fragment := by
  obtain ⟨whole, free, begins⟩ := splitBefore_spec ['?', '#'] cs
  cases behind : (splitBefore ['?', '#'] cs).2 with
  | nil =>
      refine ⟨(splitBefore ['?', '#'] cs).1, none, none, ?_, free, nofun⟩
      rw [behind] at whole
      exact whole.symm
  | cons c rest =>
      rw [behind] at whole begins
      rcases List.mem_cons.mp (begins c rfl) with rfl | fragment
      · obtain ⟨rejoined, freeQuery, beginsFragment⟩ := splitBefore_spec ['#'] rest
        obtain ⟨fragment, tail⟩ := exists_marked beginsFragment
        refine ⟨(splitBefore ['?', '#'] cs).1, some (splitBefore ['#'] rest).1, fragment, ?_, free,
          ?_⟩
        · rw [marked, List.cons_append, ← tail, rejoined, whole]
        · rintro part ⟨⟩
          exact freeQuery
      · obtain rfl := List.mem_singleton.mp fragment
        exact ⟨(splitBefore ['?', '#'] cs).1, none, some rest, whole.symm, free, nofun⟩

/-! ### Reading -/

theorem splitScheme_cons {c : Char} (other : c ≠ ':') (cs : List Char) :
    splitScheme (c :: cs) =
      if Text.isAsciiLetter c ∧ ((c :: cs).dropWhile inScheme).head? = some ':' then
        ((c :: cs).takeWhile inScheme, ((c :: cs).dropWhile inScheme).tail)
      else ([], c :: cs) := by
  rw [splitScheme.eq_2 c cs other]
  by_cases letter : Text.isAsciiLetter c = true
  · rw [if_pos letter]
    split
    next colon =>
      rw [colon, if_pos ⟨letter, rfl⟩]
      rfl
    next rest unmarked =>
      refine (if_neg ?_).symm
      rintro ⟨-, first⟩
      obtain ⟨tail, colon⟩ := List.head?_eq_some_iff.mp first
      exact unmarked tail colon
  · rw [if_neg letter, if_neg fun both => letter both.1]

theorem splitScheme_append {front rest : List Char}
    (begins : ∀ c, rest.head? = some c → c ∈ ['?', '#']) :
    splitScheme (front ++ rest) = ((splitScheme front).1, (splitScheme front).2 ++ rest) := by
  have stops : ∀ c, rest.head? = some c → inScheme c = false ∧ Text.isAsciiLetter c = false ∧
      c ≠ ':' := by
    intro c first
    have mark := begins c first
    simp only [List.mem_cons, List.not_mem_nil, or_false] at mark
    rcases mark with rfl | rfl <;> decide
  cases front with
  | nil =>
      cases rest with
      | nil => rfl
      | cons c rest =>
          obtain ⟨-, noLetter, other⟩ := stops c rfl
          rw [List.nil_append, splitScheme_cons other, if_neg]
          · rfl
          · rw [noLetter]
            exact fun both => Bool.false_ne_true both.1
  | cons c front =>
      by_cases colon : c = ':'
      · subst colon
        rfl
      · obtain ⟨before, behind⟩ :=
          Text.takeWhile_append_stop (fun c first => (stops c first).1) (c :: front)
        rw [List.cons_append] at before behind ⊢
        rw [splitScheme_cons colon, splitScheme_cons colon, before, behind]
        cases inside : (c :: front).dropWhile inScheme with
        | nil =>
            rw [List.nil_append, if_neg, if_neg]
            · rfl
            · exact fun both => by cases both.2
            · exact fun both => (stops ':' both.2).2.2 rfl
        | cons d more =>
            rw [List.cons_append, List.head?_cons, List.head?_cons]
            split <;> rfl

theorem splitScheme_suffix (cs : List Char) : (splitScheme cs).2 <:+ cs := by
  cases cs with
  | nil => exact List.suffix_refl _
  | cons c cs =>
      by_cases colon : c = ':'
      · subst colon
        exact List.suffix_cons _ _
      · rw [splitScheme_cons colon]
        split
        · exact (List.tail_suffix _).trans (List.dropWhile_suffix _)
        · exact List.suffix_refl _

theorem splitSlashed_append {cs rest : List Char}
    (begins : ∀ c, rest.head? = some c → c ∈ ['?', '#']) :
    splitSlashed (cs ++ rest) = ((splitSlashed cs).1, (splitSlashed cs).2 ++ rest) := by
  have unslashed : ∀ tail, rest ≠ '/' :: tail := by
    rintro tail rfl
    exact absurd (begins '/' rfl) (by decide)
  by_cases slashed : ∃ tail, cs = '/' :: '/' :: tail
  · obtain ⟨tail, rfl⟩ := slashed
    apply splitBefore_append
    intro c first
    exact List.mem_cons_of_mem _ (begins c first)
  · have later : ∀ tail, cs ++ rest ≠ '/' :: '/' :: tail := by
      intro tail same
      match cs with
      | [] => exact unslashed _ same
      | [c] => exact unslashed tail (List.cons.inj same).2
      | c :: d :: tail =>
          simp only [List.cons_append, List.cons.injEq] at same
          obtain ⟨rfl, rfl, -⟩ := same
          exact slashed ⟨_, rfl⟩
    rw [splitSlashed.eq_2 _ later, splitSlashed.eq_2 _ fun tail same => slashed ⟨tail, same⟩]

theorem splitSlashed_suffix (cs : List Char) : (splitSlashed cs).2 <:+ cs := by
  unfold splitSlashed
  split
  · exact (List.dropWhile_suffix _).trans (List.suffix_append ['/', '/'] _)
  · exact List.suffix_refl _

theorem splitQuery_marked {query fragment : Option (List Char)}
    (free : ∀ part, query = some part → ∀ c ∈ part, c ∉ ['#']) :
    splitQuery (marked '?' query ++ marked '#' fragment) = (query, marked '#' fragment) := by
  cases query with
  | none => cases fragment <;> rfl
  | some part =>
      rw [marked, List.cons_append, splitQuery, splitBefore_append begins_marked,
        splitBefore_free (free part rfl)]
      rfl

/-- The text of a front is read alone: a query and a fragment behind it are only added. -/
theorem ofText_written {cs front : List Char} {query fragment : Option (List Char)}
    (written : Written cs front query fragment) :
    Pieces.ofText cs = { Pieces.ofText front with query := query, fragment := fragment } := by
  obtain ⟨text, free, queryFree⟩ := written
  have begins : ∀ c, (marked '?' query ++ marked '#' fragment).head? = some c →
      c ∈ ['?', '#'] := by
    intro c first
    cases query with
    | none => exact List.mem_cons_of_mem _ (begins_marked c first)
    | some part =>
        cases first
        exact List.mem_cons_self
  have behind : (splitSlashed (splitScheme front).2).2 <:+ front :=
    (splitSlashed_suffix _).trans (splitScheme_suffix _)
  have pathFree : ∀ c ∈ (splitSlashed (splitScheme front).2).2, c ∉ ['?', '#'] :=
    fun c member => free c (behind.mem member)
  have read : fragment? (marked '#' fragment) = fragment := by
    cases fragment <;> rfl
  simp only [Pieces.ofText]
  rw [text, splitScheme_append begins, splitSlashed_append begins, splitBefore_append begins,
    splitBefore_free pathFree, List.nil_append, splitQuery_marked queryFree, read]
  rfl

/-! ### Normal form -/

def encodedQuery (query : List Char) : String :=
  String.ofList (encodeKeeping keptInQuery query)

theorem percentEncoded_ne_nil (c : Char) :
    (String.singleton c).toUTF8.toList.flatMap percentByte ≠ [] := by
  have bytes : (String.singleton c).toUTF8.toList = String.utf8EncodeChar c := by
    rw [String.singleton_eq_ofList, Text.toUTF8_ofList, List.flatMap_singleton]
  rw [bytes]
  intro empty
  cases encoded : String.utf8EncodeChar c with
  | nil => exact String.utf8EncodeChar_ne_nil encoded
  | cons byte rest =>
      rw [encoded, List.flatMap_cons] at empty
      cases (List.append_eq_nil_iff.mp empty).1

theorem encodedQuery_eq_empty_iff (query : List Char) : encodedQuery query = "" ↔ query = [] := by
  constructor
  · intro empty
    cases query with
    | nil => rfl
    | cons c rest =>
        have nothing := congrArg String.toList empty
        rw [encodedQuery, String.toList_ofList, encodeKeeping, List.flatMap_cons] at nothing
        have first := (List.append_eq_nil_iff.mp nothing).1
        split at first
        · cases first
        · exact absurd first (percentEncoded_ne_nil c)
  · rintro rfl
    rfl

theorem firstControl_eq_none_iff (cs : List Char) :
    firstControl cs = none ↔ ∀ c ∈ cs, Text.isAsciiControl c = false := by
  have nothing : firstControl cs = none ↔ cs.dropWhile (fun c => !Text.isAsciiControl c) = [] := by
    rw [firstControl]
    cases cs.dropWhile (fun c => !Text.isAsciiControl c) with
    | nil => exact ⟨fun _ => rfl, fun _ => rfl⟩
    | cons c rest => exact ⟨nofun, nofun⟩
  rw [nothing, List.dropWhile_eq_nil_iff]
  simp only [Bool.not_eq_true']

theorem check_bind_eq_ok_iff {check : Except UrlError Unit} {next : Except UrlError Url}
    {url : Url} :
    (check >>= fun _ => next) = .ok url ↔ check = .ok () ∧ next = .ok url := by
  cases check with
  | error e => exact ⟨nofun, fun both => by cases both.1⟩
  | ok _ => exact ⟨fun made => ⟨rfl, made⟩, fun both => both.2⟩

theorem checkPart_eq_ok_iff (name : String) (marks part : List Char) :
    checkPart name (freeOf marks) part = .ok () ↔
      part.length ≤ maxLength ∧ (∀ c ∈ part, Text.isAsciiControl c = false) ∧
        ∀ c ∈ part, c ∉ marks := by
  have free : freeOf marks part = true ↔ ∀ c ∈ part, c ∉ marks := by
    simp only [freeOf, List.all_eq_true, Bool.not_eq_true', ← Bool.not_eq_true,
      List.contains_iff_mem]
  rw [← firstControl_eq_none_iff, ← free]
  unfold checkPart
  by_cases long : maxLength < part.length
  · rw [if_pos long]
    exact ⟨nofun, fun fits => absurd long (Nat.not_lt.mpr fits.1)⟩
  · rw [if_neg long]
    cases firstControl part with
    | some found => exact ⟨nofun, fun plain => by cases plain.2.1⟩
    | none =>
        cases freeOf marks part with
        | true => exact ⟨fun _ => ⟨Nat.not_lt.mp long, rfl, rfl⟩, fun _ => rfl⟩
        | false => exact ⟨nofun, fun plain => by cases plain.2.2⟩

variable [Idna]

/-- The query of a URL is that of its pieces, and no other part depends on it. -/
theorem ofPieces_query (pieces : Pieces) (query : Option (List Char)) :
    ofPieces { pieces with query := query } =
      (ofPieces pieces).map fun url => { url with query := query.map encodedQuery } := by
  simp only [ofPieces]
  cases normalHost pieces.host with
  | error e => rfl
  | ok host =>
      simp only [bind, Except.bind]
      cases normalPort pieces.port pieces.scheme with
      | error e => rfl
      | ok port =>
          dsimp only
          cases checkPath pieces.path _ _ <;> rfl

theorem query_of_ofPieces {pieces : Pieces} {url : Url} (made : ofPieces pieces = .ok url) :
    url.query = pieces.query.map encodedQuery := by
  have again := ofPieces_query pieces pieces.query
  rw [made] at again
  exact congrArg Url.query (Except.ok.inj again)

theorem parse_eq_ok_iff (text : String) (url : Url) :
    parse text = .ok url ↔
      text.toList.length ≤ maxLength ∧ (∀ c ∈ text.toList, Text.isAsciiControl c = false) ∧
        ofPieces (Pieces.ofText text.toList) = .ok url := by
  rw [← firstControl_eq_none_iff]
  unfold parse
  dsimp only
  by_cases long : maxLength < text.toList.length
  · rw [if_pos long]
    exact ⟨nofun, fun fits => absurd long (Nat.not_lt.mpr fits.1)⟩
  · rw [if_neg long]
    cases firstControl text.toList with
    | some found => exact ⟨nofun, fun plain => by cases plain.2.1⟩
    | none => exact ⟨fun made => ⟨Nat.not_lt.mp long, rfl, made⟩, fun plain => plain.2.2⟩

/-- A text is a URL whose query is the written one, and without that it is the same URL without a
query. -/
theorem parse_written {text : String} {front : List Char} {query fragment : Option (List Char)}
    {url : Url} (written : Written text.toList front query fragment)
    (parsed : parse text = .ok url) :
    url.query = query.map encodedQuery ∧
      parse (String.ofList (front ++ marked '#' fragment)) = .ok { url with query := none } := by
  obtain ⟨short, plain, made⟩ := (parse_eq_ok_iff text url).mp parsed
  have cut : Written (front ++ marked '#' fragment) front none fragment :=
    ⟨rfl, written.front_free, nofun⟩
  have part : (front ++ marked '#' fragment).Sublist text.toList := by
    rw [written.text]
    exact (List.sublist_append_right _ _).append_left front
  constructor
  · rw [query_of_ofPieces made, ofText_written written]
  · rw [parse_eq_ok_iff, String.toList_ofList]
    refine ⟨Nat.le_trans part.length_le short, fun c member => plain c (part.mem member), ?_⟩
    rw [ofText_written written] at made
    have again :=
      ofPieces_query { Pieces.ofText front with query := query, fragment := fragment } none
    rw [made] at again
    rw [ofText_written cut]
    exact again

/-! ### Changes -/

theorem ofParts_query {parts : Parts} {url : Url} (made : ofParts parts = .ok url)
    {query : Option (List Char)} (fits : query.forM (checkPart "query" (freeOf ['#'])) = .ok ()) :
    ofParts { parts with query := query } = .ok { url with query := query.map encodedQuery } := by
  simp only [ofParts, check_bind_eq_ok_iff] at made ⊢
  obtain ⟨scheme, authority, path, -, fragment, host, pieces⟩ := made
  refine ⟨scheme, authority, path, fits, fragment, host, ?_⟩
  have again := ofPieces_query parts.pieces query
  rw [pieces] at again
  exact again

theorem withQuery_replaces (url : Url) (old query : Option String) :
    ({ url with query := old } : Url).withQuery query = url.withQuery query := rfl

theorem query_of_withQuery {url made : Url} {query : Option String}
    (succeeds : url.withQuery query = .ok made) :
    made.query = query.map fun query => encodedQuery query.toList := by
  simp only [withQuery, ofParts, check_bind_eq_ok_iff] at succeeds
  obtain ⟨-, -, -, -, -, -, pieces⟩ := succeeds
  rw [query_of_ofPieces pieces]
  exact Option.map_map ..

/-- What a question mark brings into the text of a path decides only on the query of the URL. -/
theorem withRawPath_append {url made : Url} {raw : String} {rest : List Char}
    (begins : ∀ c, rest.head? = some c → c ∈ ['?'])
    (succeeds : url.withRawPath (raw ++ String.ofList rest) = .ok made) :
    ∃ other, url.withRawPath raw = .ok other ∧
      ∀ query, other.withQuery query = made.withQuery query := by
  have split : splitBefore ['?'] (raw ++ String.ofList rest).toList =
      ((splitBefore ['?'] raw.toList).1, (splitBefore ['?'] raw.toList).2 ++ rest) := by
    rw [String.toList_append, String.toList_ofList, splitBefore_append begins]
  rw [withRawPath, split] at succeeds
  have fits : (splitBefore ['?'] raw.toList).2.tail?.forM (checkPart "query" (freeOf ['#'])) =
      .ok () := by
    simp only [ofParts, check_bind_eq_ok_iff] at succeeds
    obtain ⟨-, -, -, whole, -⟩ := succeeds
    cases behind : (splitBefore ['?'] raw.toList).2 with
    | nil => rfl
    | cons mark query =>
        rw [behind] at whole
        obtain ⟨short, plain, free⟩ := (checkPart_eq_ok_iff ..).mp whole
        have part : query.Sublist (query ++ rest) := List.sublist_append_left query rest
        exact (checkPart_eq_ok_iff ..).mpr ⟨Nat.le_trans part.length_le short,
          fun c member => plain c (part.mem member), fun c member => free c (part.mem member)⟩
  exact ⟨_, ofParts_query succeeds fits, withQuery_replaces made _⟩

end ClientWiring.Url
