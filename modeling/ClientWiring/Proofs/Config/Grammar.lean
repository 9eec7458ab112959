import ClientWiring.Config.Key
import ClientWiring.Proofs.Text.Split
set_option autoImplicit false

/-! The grammar of typed keys, said without the reading of them. The namespace has the keys of the
global settings, the keys that are looked up when they are needed, and the keys of clients: an owner
in one of two spellings and the name of a setting, behind which one line break may stand. The
reading of a key takes exactly these, and refuses every other key in the namespace. -/

namespace ClientWiring

namespace TypedKey

def InNamespace (key : String) : Prop :=
  (configNamespace ++ ".").toList <+: key.toList

instance (key : String) : Decidable (InNamespace key) :=
  inferInstanceAs (Decidable (_ <+: _))

def IsName (name : String) : Prop :=
  name ≠ "" ∧
    ∀ c ∈ name.toList, ('a' ≤ c ∧ c ≤ 'z') ∨ ('0' ≤ c ∧ c ≤ '9') ∨ c = '-'

inductive Spelling where
  | quoted
  | plain
  deriving DecidableEq, Repr

namespace Spelling

/-- The owners that can be written so. -/
def Holds (spelling : Spelling) (owner : String) : Prop :=
  owner ≠ "" ∧ '"' ∉ owner.toList ∧ (spelling = plain → '.' ∉ owner.toList)

def owned : Spelling → String → String
  | quoted, owner => "\"" ++ owner ++ "\""
  | plain, owner => owner

def key (spelling : Spelling) (owner name : String) : String :=
  configNamespace ++ "." ++ spelling.owned owner ++ "." ++ name

end Spelling

/-- What may stand behind the name of a setting at the end of a key: nothing, or one line break. -/
def keyEnds : List String := ["", "\n"]

/-! ### Parts of a key -/

theorem isNameChar_iff (c : Char) :
    isNameChar c = true ↔ ('a' ≤ c ∧ c ≤ 'z') ∨ ('0' ≤ c ∧ c ≤ '9') ∨ c = '-' := by
  simp only [isNameChar, Text.isAsciiDigit, Bool.or_eq_true, Bool.and_eq_true, decide_eq_true_eq,
    beq_iff_eq, or_assoc]
  rfl

theorem settingName?_eq_some_iff (cs : List Char) (name : String) :
    settingName? cs = some name ↔
      IsName name ∧ ∃ ending ∈ keyEnds, cs = name.toList ++ ending.toList := by
  unfold settingName?
  dsimp only
  constructor
  · intro found
    split at found
    next ends =>
      cases found
      rw [Bool.and_eq_true, Bool.or_eq_true, List.isEmpty_iff, beq_iff_eq] at ends
      refine ⟨⟨?_, ?_⟩, ?_⟩
      · intro empty
        have noChars := congrArg String.toList empty
        rw [String.toList_ofList] at noChars
        rw [noChars] at ends
        exact absurd ends.1 nofun
      · intro c member
        rw [String.toList_ofList] at member
        exact (isNameChar_iff c).mp (List.mem_takeWhile_imp member)
      · have whole := List.takeWhile_append_dropWhile (p := isNameChar) (l := cs)
        rw [String.toList_ofList]
        rcases ends.2 with nothing | newline
        · refine ⟨"", List.mem_cons_self, ?_⟩
          rw [nothing] at whole
          exact whole.symm
        · refine ⟨"\n", List.mem_cons_of_mem _ List.mem_cons_self, ?_⟩
          rw [newline] at whole
          exact whole.symm
    · cases found
  · rintro ⟨⟨nonempty, chars⟩, ending, listed, rfl⟩
    have inName : ∀ c ∈ name.toList, isNameChar c = true :=
      fun c member => (isNameChar_iff c).mpr (chars c member)
    have stops : ending.toList.takeWhile isNameChar = [] ∧
        ending.toList.dropWhile isNameChar = ending.toList ∧
        (ending.toList.isEmpty || ending.toList == ['\n']) = true := by
      rcases List.mem_cons.mp listed with rfl | later
      · decide
      · rw [List.mem_singleton.mp later]
        decide
    rw [List.takeWhile_append_of_pos inName, List.dropWhile_append_of_pos inName, stops.1, stops.2.1,
      List.append_nil, stops.2.2, String.ofList_toList]
    have filled : name.toList.isEmpty = false := by simpa using nonempty
    rw [filled]
    rfl

theorem ownerAndSetting?_of_quoted {owner : String} (holds : Spelling.quoted.Holds owner)
    (rest : List Char) :
    ownerAndSetting? ('"' :: (owner.toList ++ '"' :: '.' :: rest)) =
      (settingName? rest).map (owner, ·) := by
  obtain ⟨nonempty, unquoted, -⟩ := holds
  have inside : ∀ c ∈ owner.toList, (c != '"') = true := by
    intro c member
    rw [bne_iff_ne]
    rintro rfl
    exact unquoted member
  obtain ⟨owned, closed⟩ :=
    Text.takeWhile_append_mark inside (bne_self_eq_false '"') ('.' :: rest)
  have filled : owner.toList.isEmpty = false := by simpa using nonempty
  simp only [ownerAndSetting?, closed, owned, filled]
  simp

theorem ownerAndSetting?_of_plain {owner : String} (holds : Spelling.plain.Holds owner)
    (rest : List Char) :
    ownerAndSetting? (owner.toList ++ '.' :: rest) = (settingName? rest).map (owner, ·) := by
  obtain ⟨nonempty, unquoted, pointless⟩ := holds
  have inside : ∀ c ∈ owner.toList, (c != '.' && c != '"') = true := by
    intro c member
    rw [Bool.and_eq_true, bne_iff_ne, bne_iff_ne]
    refine ⟨?_, ?_⟩
    · rintro rfl
      exact pointless rfl member
    · rintro rfl
      exact unquoted member
  have marked : ('.' != '.' && '.' != '"') = false := rfl
  obtain ⟨owned, point⟩ := Text.takeWhile_append_mark inside marked rest
  have filled : owner.toList.isEmpty = false := by simpa using nonempty
  have unopened : ∀ cs, owner.toList ++ '.' :: rest ≠ '"' :: cs := by
    intro cs opened
    cases chars : owner.toList with
    | nil =>
        rw [chars] at opened
        cases opened
    | cons c tail =>
        rw [chars] at opened unquoted
        cases opened
        exact unquoted List.mem_cons_self
  unfold ownerAndSetting?
  split
  next cs opened => exact absurd opened (unopened cs)
  · simp only [point, owned, filled]
    simp

theorem ownerAndSetting?_eq_some_iff (cs : List Char) (owner name : String) :
    ownerAndSetting? cs = some (owner, name) ↔
      ∃ spelling : Spelling, spelling.Holds owner ∧
        ∃ rest, cs = (spelling.owned owner).toList ++ '.' :: rest ∧
          settingName? rest = some name := by
  constructor
  · intro found
    unfold ownerAndSetting? at found
    split at found
    next cs =>
      split at found
      next rest closed =>
        dsimp only at found
        split at found
        · cases found
        next filled =>
          obtain ⟨_, named, same⟩ := Option.map_eq_some_iff.mp found
          cases same
          have whole := List.takeWhile_append_dropWhile (p := (· != '"')) (l := cs)
          rw [closed] at whole
          refine ⟨.quoted, ⟨?_, ?_, nofun⟩, rest, ?_, named⟩
          · simpa using filled
          · intro member
            rw [String.toList_ofList] at member
            exact absurd (List.mem_takeWhile_imp member) (by decide)
          · simp only [Spelling.owned, String.toList_append, String.toList_ofList]
            rw [List.append_assoc, List.append_assoc]
            exact congrArg (List.cons '"') whole.symm
      · cases found
    next unopened =>
      dsimp only at found
      split at found
      next rest point =>
        split at found
        · cases found
        next filled =>
          obtain ⟨_, named, same⟩ := Option.map_eq_some_iff.mp found
          cases same
          have whole :=
            List.takeWhile_append_dropWhile (p := fun c => c != '.' && c != '"') (l := cs)
          rw [point] at whole
          refine ⟨.plain, ⟨?_, ?_, ?_⟩, rest, ?_, named⟩
          · simpa using filled
          · intro member
            rw [String.toList_ofList] at member
            exact absurd (List.mem_takeWhile_imp member) (by decide)
          · intro _ member
            rw [String.toList_ofList] at member
            exact absurd (List.mem_takeWhile_imp member) (by decide)
          · simp only [Spelling.owned, String.toList_ofList]
            exact whole.symm
      · cases found
  · rintro ⟨spelling, holds, rest, rfl, named⟩
    cases spelling with
    | quoted =>
        have read := ownerAndSetting?_of_quoted holds rest
        rw [named] at read
        simpa [Spelling.owned] using read
    | plain =>
        have read := ownerAndSetting?_of_plain holds rest
        rw [named] at read
        exact read

/-! ### Keys -/

theorem afterStart?_eq_some_iff (start cs rest : List Char) :
    afterStart? start cs = some rest ↔ cs = start ++ rest := by
  induction start generalizing cs with
  | nil => exact ⟨Option.some.inj, fun same => congrArg some same⟩
  | cons p start ih =>
      cases cs with
      | nil => exact ⟨nofun, nofun⟩
      | cons c cs =>
          rw [afterStart?, List.cons_append, List.cons.injEq]
          by_cases same : p = c
          · rw [if_pos same, ih]
            exact ⟨fun later => ⟨same.symm, later⟩, And.right⟩
          · rw [if_neg same]
            exact ⟨nofun, fun both => absurd both.1.symm same⟩

theorem afterStart?_eq_none_iff (start cs : List Char) :
    afterStart? start cs = none ↔ ¬ start <+: cs := by
  rw [Option.eq_none_iff_forall_not_mem]
  constructor
  · rintro none ⟨rest, same⟩
    exact none rest ((afterStart?_eq_some_iff start cs rest).mpr same.symm)
  · intro other rest found
    exact other ⟨rest, ((afterStart?_eq_some_iff start cs rest).mp found).symm⟩

theorem toList_key (spelling : Spelling) (owner name ending : String) :
    (spelling.key owner name ++ ending).toList =
      (configNamespace ++ ".").toList ++
        ((spelling.owned owner).toList ++ '.' :: (name.toList ++ ending.toList)) := by
  simp [Spelling.key, List.append_assoc]

theorem ofKebab?_pointed (before after : List Char) :
    GlobalSetting.ofKebab? (String.ofList (before ++ '.' :: after)) = none := by
  have pointless : ∀ setting ∈ GlobalSetting.all, '.' ∉ setting.kebab.toList := by decide
  unfold GlobalSetting.ofKebab?
  rw [List.find?_eq_none]
  intro setting member same
  apply pointless setting member
  rw [beq_iff_eq.mp same, String.toList_ofList]
  exact List.mem_append_right _ List.mem_cons_self

theorem parse_eq_foreign_iff (key : String) : parse key = .foreign ↔ ¬ InNamespace key := by
  unfold InNamespace
  rw [← afterStart?_eq_none_iff]
  unfold parse
  constructor
  · intro read
    split at read
    next start => exact start
    · split at read
      · cases read
      · split at read
        · cases read
        · split at read <;> cases read
  · intro start
    rw [start]

/-- A key is read as a setting of a client exactly if it is the client's key of that setting in one
of the two spellings, but for a line break at its end. -/
theorem parse_eq_client_iff (key owner name : String) :
    parse key = .client owner name ↔
      IsName name ∧ ∃ spelling : Spelling, spelling.Holds owner ∧
        ∃ ending ∈ keyEnds, key = spelling.key owner name ++ ending := by
  constructor
  · intro read
    unfold parse at read
    split at read
    · cases read
    next rest start =>
      split at read
      · cases read
      · split at read
        next found =>
          cases read
          obtain ⟨spelling, holds, last, split, named⟩ :=
            (ownerAndSetting?_eq_some_iff rest owner name).mp found
          obtain ⟨isName, ending, listed, rfl⟩ := (settingName?_eq_some_iff last name).mp named
          refine ⟨isName, spelling, holds, ending, listed, ?_⟩
          apply String.toList_inj.mp
          rw [toList_key, (afterStart?_eq_some_iff _ _ _).mp start, split]
        · split at read <;> cases read
  · rintro ⟨isName, spelling, holds, ending, listed, rfl⟩
    have named := (settingName?_eq_some_iff _ name).mpr ⟨isName, ending, listed, rfl⟩
    have found := (ownerAndSetting?_eq_some_iff _ owner name).mpr
      ⟨spelling, holds, _, rfl, named⟩
    unfold parse
    rw [toList_key, (afterStart?_eq_some_iff _ _ _).mpr rfl]
    dsimp only
    rw [ofKebab?_pointed]
    dsimp only
    rw [found]

theorem parse_eq_everywhere_iff (key : String) (setting : GlobalSetting) :
    parse key = .everywhere setting ↔ key = configNamespace ++ "." ++ setting.kebab := by
  constructor
  · intro read
    unfold parse at read
    split at read
    · cases read
    next rest start =>
      split at read
      next global =>
        cases read
        have name := List.find?_some global
        rw [beq_iff_eq] at name
        apply String.toList_inj.mp
        rw [(afterStart?_eq_some_iff _ _ _).mp start, name]
        simp
      · split at read
        · cases read
        · split at read <;> cases read
  · rintro rfl
    cases setting <;> decide

theorem parse_eq_lookedUp_iff (key : String) :
    parse key = .lookedUp ↔ ∃ name ∈ lookedUpNames, key = configNamespace ++ "." ++ name := by
  constructor
  · intro read
    unfold parse at read
    split at read
    · cases read
    next rest start =>
      split at read
      · cases read
      · split at read
        · cases read
        · split at read
          next listed =>
            refine ⟨String.ofList rest, List.contains_iff_mem.mp listed, ?_⟩
            apply String.toList_inj.mp
            rw [(afterStart?_eq_some_iff _ _ _).mp start]
            simp
          · cases read
  · rintro ⟨name, listed, rfl⟩
    rw [List.mem_singleton.mp listed]
    decide

/-- The keys that the namespace has, where the keys of clients may end in given texts: those of the
global settings, those that are looked up when they are needed, and those of the settings of
clients. -/
inductive Accepted (ends : List String) : String → Prop
  | everywhere (setting : GlobalSetting) : Accepted ends (configNamespace ++ "." ++ setting.kebab)
  | lookedUp {name : String} (listed : name ∈ lookedUpNames) :
      Accepted ends (configNamespace ++ "." ++ name)
  | client {spelling : Spelling} {owner name ending : String} (holds : spelling.Holds owner)
      (isName : IsName name) (allowed : ending ∈ ends) :
      Accepted ends (spelling.key owner name ++ ending)

/-- A key is malformed exactly if it stands in the namespace and the namespace does not have it. -/
theorem parse_eq_malformed_iff (key : String) :
    parse key = .malformed ↔ InNamespace key ∧ ¬ Accepted keyEnds key := by
  have foreign := parse_eq_foreign_iff key
  constructor
  · intro malformed
    rw [malformed] at foreign
    refine ⟨not_not.mp fun outside => absurd (foreign.mpr outside) nofun, ?_⟩
    intro accepted
    cases accepted with
    | everywhere setting =>
        rw [(parse_eq_everywhere_iff _ setting).mpr rfl] at malformed
        cases malformed
    | lookedUp listed =>
        rw [(parse_eq_lookedUp_iff _).mpr ⟨_, listed, rfl⟩] at malformed
        cases malformed
    | client holds isName allowed =>
        rw [(parse_eq_client_iff _ _ _).mpr ⟨isName, _, holds, _, allowed, rfl⟩] at malformed
        cases malformed
  · rintro ⟨inside, rejected⟩
    cases read : parse key with
    | foreign => exact absurd inside (foreign.mp read)
    | everywhere setting =>
        rw [(parse_eq_everywhere_iff key setting).mp read] at rejected
        exact absurd (.everywhere setting) rejected
    | lookedUp =>
        obtain ⟨name, listed, rfl⟩ := (parse_eq_lookedUp_iff key).mp read
        exact absurd (.lookedUp listed) rejected
    | client owner name =>
        obtain ⟨isName, spelling, holds, ending, allowed, rfl⟩ :=
          (parse_eq_client_iff key owner name).mp read
        exact absurd (.client holds isName allowed) rejected
    | malformed => rfl

end TypedKey
end ClientWiring
