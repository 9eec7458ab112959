import ClientWiring.Proofs.Config.Grammar
set_option autoImplicit false

/-! What the keys of the two sources stand for. A legacy key has one owner and one setting, the typed
key of a setting is read back as its owner and its setting, and no key belongs to both sources. The
owner is an arbitrary text, so the last point or slash of a key decides. -/

namespace ClientWiring

theorem append_cons_inj_of_last (isMark : Char → Bool) {mark mark' : Char}
    {before before' after after' : List Char} (marked : isMark mark) (marked' : isMark mark')
    (plain : ∀ c ∈ after, isMark c = false) (plain' : ∀ c ∈ after', isMark c = false)
    (same : before ++ mark :: after = before' ++ mark' :: after') :
    before = before' ∧ mark = mark' ∧ after = after' := by
  induction before generalizing before' with
  | nil =>
      cases before' with
      | nil =>
          obtain ⟨rfl, rfl⟩ := List.cons.inj same
          exact ⟨rfl, rfl, rfl⟩
      | cons c rest =>
          obtain ⟨-, rfl⟩ := List.cons.inj same
          have unmarked := plain mark' (List.mem_append_right _ List.mem_cons_self)
          exact absurd (marked'.symm.trans unmarked) nofun
  | cons c rest ih =>
      cases before' with
      | nil =>
          obtain ⟨-, rfl⟩ := List.cons.inj same
          have unmarked := plain' mark (List.mem_append_right _ List.mem_cons_self)
          exact absurd (marked.symm.trans unmarked) nofun
      | cons c' rest' =>
          obtain ⟨rfl, later⟩ := List.cons.inj same
          obtain ⟨rfl, sameMark, sameAfter⟩ := ih later
          exact ⟨rfl, sameMark, sameAfter⟩

/-! ### Legacy keys -/

def isKeyMark (c : Char) : Bool := c == '/' || c == '.'

theorem legacyName_plain {setting : Setting} {name : String}
    (named : setting.legacyName? = some name) : ∀ c ∈ name.toList, isKeyMark c = false := by
  have plain : (name.toList.any isKeyMark) = false := by
    cases setting <;> cases named <;> decide
  intro c member
  rw [← Bool.not_eq_true]
  exact List.any_eq_false.mp plain c member

theorem legacyName_inj {setting other : Setting} {name : String}
    (named : setting.legacyName? = some name) (named' : other.legacyName? = some name) :
    setting = other := by
  have distinct : ∀ setting ∈ Setting.all, ∀ other ∈ Setting.all,
      setting.legacyName? = other.legacyName? → setting.legacyName?.isNone ∨ setting = other := by
    decide
  rcases distinct setting setting.mem_all other other.mem_all (named.trans named'.symm) with
    unnamed | same
  · rw [named] at unnamed
    cases unnamed
  · exact same

theorem toList_legacyKey (owner name : String) :
    (legacyKey owner name).toList =
      (owner.toList ++ "/mp-rest".toList) ++ '/' :: name.toList := by
  simp [legacyKey]

theorem legacyKey_inj {setting other : Setting} {name name' owner owner' : String}
    (named : setting.legacyName? = some name) (named' : other.legacyName? = some name')
    (same : legacyKey owner name = legacyKey owner' name') : owner = owner' ∧ setting = other := by
  have chars := congrArg String.toList same
  rw [toList_legacyKey, toList_legacyKey] at chars
  obtain ⟨sameOwner, -, sameName⟩ := append_cons_inj_of_last isKeyMark rfl rfl
    (legacyName_plain named) (legacyName_plain named') chars
  obtain rfl := String.toList_inj.mp (List.append_cancel_right sameOwner)
  obtain rfl := String.toList_inj.mp sameName
  exact ⟨rfl, legacyName_inj named named'⟩

theorem ne_legacyKey {key : String} (plain : '/' ∉ key.toList) (owner name : String) :
    key ≠ legacyKey owner name := by
  rintro rfl
  apply plain
  rw [toList_legacyKey]
  exact List.mem_append_right _ List.mem_cons_self

/-! ### Typed keys -/

namespace TypedKey

theorem isName_plain {name : String} (isName : IsName name) :
    ∀ c ∈ name.toList, isKeyMark c = false := by
  intro c member
  cases mark : isKeyMark c with
  | false => rfl
  | true =>
      have char := isName.2 c member
      rw [isKeyMark, Bool.or_eq_true, beq_iff_eq, beq_iff_eq] at mark
      rcases mark with rfl | rfl <;> exact absurd char (by decide)

theorem keyEnd_plain {ending : String} (listed : ending ∈ keyEnds) :
    ∀ c ∈ ending.toList, isKeyMark c = false := by
  have plain : ∀ ending ∈ keyEnds, ending.toList.any isKeyMark = false := by decide
  intro c member
  rw [← Bool.not_eq_true]
  exact List.any_eq_false.mp (plain ending listed) c member

/-- Behind the last point of the key of a client stand the name of a setting and the end of the
key. -/
theorem parse_client_split {key owner setting : String} (read : parse key = .client owner setting) :
    ∃ before after, key.toList = before ++ '.' :: after ∧
      ∀ c ∈ after, isKeyMark c = false := by
  obtain ⟨isName, spelling, -, ending, listed, rfl⟩ :=
    (parse_eq_client_iff key owner setting).mp read
  refine ⟨(configNamespace ++ ".").toList ++ (spelling.owned owner).toList,
    setting.toList ++ ending.toList, ?_, ?_⟩
  · rw [toList_key, List.append_assoc]
  · intro c member
    rcases List.mem_append.mp member with inName | atEnd
    · exact isName_plain isName c inName
    · exact keyEnd_plain listed c atEnd

theorem parse_legacyKey_ne_client {setting : Setting} {name : String}
    (named : setting.legacyName? = some name) (owner other typed : String) :
    parse (legacyKey owner name) ≠ .client other typed := by
  intro read
  obtain ⟨before, after, split, plain⟩ := parse_client_split read
  rw [toList_legacyKey] at split
  obtain ⟨-, slash, -⟩ := append_cons_inj_of_last isKeyMark rfl rfl
    (legacyName_plain named) plain split
  exact absurd slash (by decide)

theorem parse_legacyKey_ne_everywhere (owner name : String) (global : GlobalSetting) :
    parse (legacyKey owner name) ≠ .everywhere global := by
  intro read
  have plain : '/' ∉ (configNamespace ++ "." ++ global.kebab).toList := by
    cases global <;> decide
  exact ne_legacyKey plain owner name ((parse_eq_everywhere_iff _ global).mp read).symm

/-! ### Reading typed keys back -/

theorem isName_kebab (setting : Setting) : IsName setting.kebab := by
  have named : settingName? setting.kebab.toList = some setting.kebab := by
    cases setting <;> decide
  exact ((settingName?_eq_some_iff _ _).mp named).1

theorem typedKey_eq_key (owner : String) (setting : Setting) :
    typedKey owner setting.field = Spelling.quoted.key owner setting.kebab := by
  have hyphenated : (setting.field.toList.map fun c => if c == '_' then '-' else c) =
      setting.kebab.toList := by
    cases setting <;> decide
  apply String.toList_inj.mp
  simp only [typedKey, Spelling.key, Spelling.owned, String.toList_append, String.toList_ofList,
    hyphenated, List.append_assoc]
  rfl

theorem parse_typedKey {owner : String} (nonempty : owner ≠ "") (unquoted : '"' ∉ owner.toList)
    (setting : Setting) : parse (typedKey owner setting.field) = .client owner setting.kebab := by
  rw [parse_eq_client_iff]
  refine ⟨isName_kebab setting, .quoted, ⟨nonempty, unquoted, nofun⟩, "", List.mem_cons_self, ?_⟩
  rw [typedKey_eq_key, String.append_empty]

end TypedKey

end ClientWiring
