import ClientWiring.Config.Root
import ClientWiring.Proofs.Config.Grammar
set_option autoImplicit false

/-! Which keys are refused. Loading properties names the first key that stands in the namespace and
is no key of the grammar; it does so before any value is decoded, so the values do not matter. A key
of a client may end in a line break, which is the one way in which two keys of one spelling say the
same. -/

namespace ClientWiring

namespace TypedKey

def Refused (ends : List String) (key : String) : Prop :=
  InNamespace key ∧ ¬ Accepted ends key

def Spelling.Writes (spelling : Spelling) (owner name key : String) : Prop :=
  spelling.Holds owner ∧ IsName name ∧ ∃ ending ∈ keyEnds, key = spelling.key owner name ++ ending

theorem parse_of_writes {spelling : Spelling} {owner name key : String}
    (written : spelling.Writes owner name key) : parse key = .client owner name := by
  obtain ⟨holds, isName, ending, listed, same⟩ := written
  exact (parse_eq_client_iff key owner name).mpr ⟨isName, spelling, holds, ending, listed, same⟩

/-- Keys of one spelling that say the same differ at most in a line break at the end. -/
theorem eq_of_writes {spelling : Spelling} {owner name key : String} {owner' name' other : String}
    (written : spelling.Writes owner name key) (written' : spelling.Writes owner' name' other)
    (same : parse key = parse other) : key = other ∨ key = other ++ "\n" ∨ other = key ++ "\n" := by
  rw [parse_of_writes written, parse_of_writes written', client.injEq] at same
  obtain ⟨rfl, rfl⟩ := same
  obtain ⟨-, -, ending, listed, rfl⟩ := written
  obtain ⟨-, -, ending', listed', rfl⟩ := written'
  simp only [keyEnds, List.mem_cons, List.not_mem_nil, or_false] at listed listed'
  rcases listed with rfl | rfl <;> rcases listed' with rfl | rfl <;> simp

/-- Without the line break that may stand behind them, no key ends in one. -/
theorem getLast?_of_accepted {key : String} (accepted : Accepted [""] key) :
    key.toList.getLast? ≠ some '\n' := by
  cases accepted with
  | everywhere setting => cases setting <;> decide
  | lookedUp listed =>
      rw [List.mem_singleton.mp listed]
      decide
  | @client spelling owner name ending holds isName allowed =>
      rcases List.eq_nil_or_concat name.toList with nothing | ⟨front, last, split⟩
      · exact absurd nothing (by simpa using isName.1)
      · have whole : (spelling.key owner name ++ ending).toList =
            ((configNamespace ++ ".").toList ++ (spelling.owned owner).toList ++ '.' :: front) ++
              [last] := by
          rw [toList_key, List.mem_singleton.mp allowed, split]
          simp
        have char := isName.2 last (by rw [split]; simp)
        rw [whole, List.getLast?_concat]
        rintro ⟨⟩
        exact absurd char (by decide)

/-- Of the keys that do not end in a line break, the same are refused with and without it. -/
theorem refused_iff_of_unbroken {key : String} (unbroken : key.toList.getLast? ≠ some '\n') :
    Refused keyEnds key ↔ Refused [""] key := by
  refine and_congr_right fun _ => not_congr ⟨?_, ?_⟩
  · intro accepted
    cases accepted with
    | everywhere setting => exact .everywhere setting
    | lookedUp listed => exact .lookedUp listed
    | @client spelling owner name ending holds isName allowed =>
        refine .client holds isName ?_
        rcases List.mem_cons.mp allowed with rfl | broken
        · exact List.mem_cons_self
        · rw [List.mem_singleton.mp broken] at unbroken
          exact absurd (by simp) unbroken
  · intro accepted
    cases accepted with
    | everywhere setting => exact .everywhere setting
    | lookedUp listed => exact .lookedUp listed
    | client holds isName allowed =>
        rw [List.mem_singleton.mp allowed]
        exact .client holds isName List.mem_cons_self

end TypedKey

namespace ConfigRoot

open TypedKey (Accepted InNamespace Refused keyEnds)

theorem add_eq_error_iff (collected : Collected) (key value : String) (e : ConfigError) :
    collected.add key value = .error e ↔
      TypedKey.parse key = .malformed ∧ e = .invalidKey key := by
  unfold Collected.add
  cases TypedKey.parse key <;> simp [eq_comm]

def malformed? (properties : Dictionary String) : Option (String × String) :=
  properties.find? fun entry => decide (TypedKey.parse entry.1 = .malformed)

/-- Collecting fails exactly at the first malformed key. -/
theorem collect_eq_error_iff (collected : Collected) (properties : Dictionary String)
    (e : ConfigError) :
    collect collected properties = .error e ↔
      ∃ entry, malformed? properties = some entry ∧ e = .invalidKey entry.1 := by
  induction properties generalizing collected with
  | nil => exact ⟨nofun, nofun⟩
  | cons first rest ih =>
      rw [collect, malformed?, List.find?_cons]
      cases added : collected.add first.1 first.2 with
      | error cause =>
          obtain ⟨malformed, rfl⟩ := (add_eq_error_iff collected _ _ cause).mp added
          rw [malformed, decide_eq_true rfl]
          constructor
          · intro failed
            cases failed
            exact ⟨first, rfl, rfl⟩
          · rintro ⟨entry, found, rfl⟩
            cases found
            rfl
      | ok next =>
          have wellFormed : TypedKey.parse first.1 ≠ .malformed := by
            intro malformed
            rw [(add_eq_error_iff collected _ _ _).mpr ⟨malformed, rfl⟩] at added
            cases added
          rw [decide_eq_false wellFormed]
          exact ih next

theorem decodeClient_ne_invalidKey (owner : String) (settings : Dictionary Supplied)
    (key : String) : decodeClient owner settings ≠ .error (.invalidKey key) := by
  unfold decodeClient
  dsimp only
  split <;> exact nofun

theorem decodeClients_ne_invalidKey (clients : Dictionary (Dictionary Supplied)) (key : String) :
    decodeClients clients ≠ .error (.invalidKey key) := by
  induction clients with
  | nil => exact nofun
  | cons entry rest ih =>
      unfold decodeClients
      cases decoded : decodeClient entry.1 entry.2 with
      | error e =>
          intro failed
          cases failed
          exact decodeClient_ne_invalidKey _ _ _ decoded
      | ok config =>
          dsimp only
          cases others : decodeClients rest with
          | error e =>
              intro failed
              cases failed
              exact ih others
          | ok configs => exact nofun

/-- Loading fails for a key exactly if the first malformed key is this one. -/
theorem ofProperties_eq_invalidKey_iff (properties : Dictionary String) (key : String) :
    ofProperties properties = .error (.invalidKey key) ↔
      ∃ value, malformed? properties = some (key, value) := by
  have collects : ofProperties properties = .error (.invalidKey key) ↔
      collect ⟨[], []⟩ properties = .error (.invalidKey key) := by
    unfold ofProperties
    cases collect ⟨[], []⟩ properties with
    | error e => simp
    | ok collected =>
        refine ⟨?_, nofun⟩
        intro failed
        dsimp only at failed
        split at failed
        next e decoded =>
          cases failed
          exact absurd decoded (decodeClients_ne_invalidKey _ _)
        · split at failed <;> cases failed
  rw [collects, collect_eq_error_iff]
  constructor
  · rintro ⟨⟨_, value⟩, found, same⟩
    cases same
    exact ⟨value, found⟩
  · rintro ⟨value, found⟩
    exact ⟨(key, value), found, rfl⟩

/-- Loading fails for a key exactly if some key in the namespace is none of the grammar, and then it
names the first such key, whatever the values are. A line break at the end is the only thing that the
grammar has beyond the plain keys; of its keys, two in one spelling say the same only if they differ
in that. -/
theorem ofProperties_refuses (properties : Dictionary String) :
    ((∃ key, ofProperties properties = .error (.invalidKey key)) ↔
      ∃ entry ∈ properties, Refused keyEnds entry.1) ∧
    (∀ key, ofProperties properties = .error (.invalidKey key) ↔
      ∃ before value after, properties = before ++ (key, value) :: after ∧ Refused keyEnds key ∧
        ∀ entry ∈ before, ¬ Refused keyEnds entry.1) ∧
    (∀ key : String, key.toList.getLast? ≠ some '\n' → (Refused keyEnds key ↔ Refused [""] key)) ∧
    ∀ (spelling : TypedKey.Spelling) (owner name key owner' name' other : String),
      spelling.Writes owner name key → spelling.Writes owner' name' other →
      TypedKey.parse key = TypedKey.parse other →
      key = other ∨ key = other ++ "\n" ∨ other = key ++ "\n" := by
  have refused_iff (key : String) : Refused keyEnds key ↔ TypedKey.parse key = .malformed :=
    (TypedKey.parse_eq_malformed_iff key).symm
  refine ⟨?_, ?_, fun _ => TypedKey.refused_iff_of_unbroken, fun _ _ _ _ _ _ _ =>
    TypedKey.eq_of_writes⟩
  all_goals simp only [ofProperties_eq_invalidKey_iff, refused_iff]
  · have present : (malformed? properties).isSome = true ↔
        ∃ entry ∈ properties, TypedKey.parse entry.1 = .malformed := by
      simp only [malformed?, List.find?_isSome, decide_eq_true_eq]
    rw [← present, Option.isSome_iff_exists, Prod.exists]
  · intro key
    simp only [malformed?, List.find?_eq_some_iff_append, decide_eq_true_eq, Bool.not_eq_true',
      decide_eq_false_iff_not]
    constructor
    · rintro ⟨value, malformed, before, after, split, sound⟩
      exact ⟨before, value, after, split, malformed, sound⟩
    · rintro ⟨before, value, after, split, malformed, sound⟩
      exact ⟨value, malformed, before, after, split, sound⟩

/-- A key that ends in a line break is loaded, though it is none of the keys without one, and says
the same as the key without it. -/
theorem ofProperties_line_break :
    Refused [""] "rest-client.echo.url\n" ∧
    (∃ root, ofProperties [("rest-client.echo.url\n", "http://localhost")] = .ok root) ∧
    TypedKey.parse "rest-client.echo.url\n" = TypedKey.parse "rest-client.echo.url" := by
  have loads : (ofProperties [("rest-client.echo.url\n", "http://localhost")]).toBool = true := by
    decide
  refine ⟨⟨⟨"echo.url\n".toList, by decide⟩, ?_⟩, ?_, by decide⟩
  · intro accepted
    exact TypedKey.getLast?_of_accepted accepted (by decide)
  · cases loaded : ofProperties [("rest-client.echo.url\n", "http://localhost")] with
    | ok root => exact ⟨root, rfl⟩
    | error e =>
        rw [loaded] at loads
        cases loads

end ConfigRoot

end ClientWiring
