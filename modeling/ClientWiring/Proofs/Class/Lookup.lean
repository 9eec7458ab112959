import ClientWiring.Class.Sample
import ClientWiring.Proofs.Class.Name
import ClientWiring.Wiring.Choice
set_option autoImplicit false

/-! What a configured class name resolves to, said without the search for it: a registered class, or
the class that the name leads to through a module. Where every absolute name can be loaded or is
missing, a name that does neither is unresolved, with one exception: a colon behind the name of a
relative module. -/

namespace ClientWiring

namespace Library

/-- Every absolute name is loaded, or it is the name of a module that cannot be had. -/
def Orderly (library : Library) : Prop :=
  ∀ name e, ¬ IsRelative name → library.load name = .error e → e.isMissing = true

/-- A name leads to a path in a module. With a colon it names the module exactly; without one the
longest of its parts that can be loaded is the module. -/
inductive Leads (library : Library) (name : String) : Module → List String → Prop
  | exactly {module path : String} {found : Module} (marked : name = module ++ ":" ++ path)
      (first : ':' ∉ module.toList) (named : module ≠ "") (filled : "" ∉ parts path)
      (loaded : library.load module = .ok found) : Leads library name found (parts path)
  | longest {before after : List String} {found : Module} (unmarked : ':' ∉ name.toList)
      (filled : "" ∉ parts name) (split : parts name = before ++ after) (named : before ≠ [])
      (rest : after ≠ []) (loaded : library.load (".".intercalate before) = .ok found)
      (longer : ∀ more less, after = more ++ less → more ≠ [] → less ≠ [] →
        ∀ other, library.load (".".intercalate (before ++ more)) ≠ .ok other) :
      Leads library name found after

theorem isMissing_of_loadFrom {library : Library}
    (missing : ∀ path e, library.find path = .error e → e.isMissing = true)
    (path parent : List String) (holder : Option Module) {e : LoadError}
    (failed : library.loadFrom parent holder path = .error e) : e.isMissing = true := by
  induction path generalizing parent holder with
  | nil => cases failed
  | cons part rest ih =>
      rw [loadFrom] at failed
      split at failed
      · cases failed
        rfl
      · split at failed
        next other absent =>
          cases failed
          exact missing _ _ absent
        next found present => exact ih _ _ failed

/-- It is enough that the modules of a library are there or missing. -/
theorem orderly_of_find {library : Library}
    (missing : ∀ path e, library.find path = .error e → e.isMissing = true) :
    library.Orderly := by
  intro name e absolute failed
  rw [isRelative_iff_startsWith] at absolute
  rw [load, if_neg absolute] at failed
  split at failed
  · cases failed
    rfl
  · split at failed
    next other broken =>
      cases failed
      exact isMissing_of_loadFrom missing _ _ _ broken
    next found present => cases failed
    next nothing =>
      cases failed
      rfl

theorem Orderly.missing {library : Library} (orderly : library.Orderly) {name : String}
    (absolute : ¬ IsRelative name) (absent : ∀ found, library.load name ≠ .ok found) :
    ∃ e, library.load name = .error e ∧ e.isMissing = true := by
  cases outcome : library.load name with
  | ok found => exact absurd outcome (absent found)
  | error e => exact ⟨e, rfl, orderly name e absolute outcome⟩

end Library

namespace Registry

/-- The class of a name: the registered one, else the one that the name leads to. -/
inductive Finds (registry : Registry) (library : Library) (name : String) (info : ClassInfo) : Prop
  | registered (known : registry.get? name = some info)
  | led {found : Module} {path : List String} (unknown : registry.get? name = none)
      (leads : library.Leads name found path) (has : library.classOf? found path = some info)

/-- A name that is not registered and has, in front of a colon, the name of a relative module. -/
inductive NamesRelative (registry : Registry) (name module : String) : Prop
  | intro {path : String} (unknown : registry.get? name = none)
      (marked : name = module ++ ":" ++ path) (first : ':' ∉ module.toList)
      (filled : "" ∉ Library.parts path) (relative : Library.IsRelative module)

/-! ### The search through modules -/

theorem resolveIn_of_loaded {library : Library} {module : String} {found : Module}
    (loaded : library.load module = .ok found) (path : List String) (name : String) :
    resolveIn library module path name =
      (library.classOf? found path).elim (.error (.unresolved name)) .ok := by
  rw [resolveIn, loaded]
  dsimp only
  cases library.classOf? found path with
  | none => rfl
  | some info => rfl

theorem resolveIn_of_missing {library : Library} {module : String} {e : LoadError}
    (failed : library.load module = .error e) (missing : e.isMissing = true) (path : List String)
    (name : String) : resolveIn library module path name = .error (.unresolved name) := by
  rw [resolveIn, failed]
  exact if_pos missing

theorem resolveDotted_succ_of_missing {library : Library} {parts : List String} {split : Nat}
    {e : LoadError} (failed : library.load (".".intercalate (parts.take (split + 1))) = .error e)
    (missing : e.isMissing = true) (name : String) :
    resolveDotted library parts name (split + 1) = resolveDotted library parts name split := by
  rw [resolveDotted, failed]
  exact if_pos missing

/-- The longest module decides: the longer ones that are missing are passed over. -/
theorem resolveDotted_of_loaded {library : Library} {parts : List String} {length bound : Nat}
    {found : Module} (loaded : library.load (".".intercalate (parts.take length)) = .ok found)
    (positive : 0 < length) (within : length ≤ bound)
    (longer : ∀ n, length < n → n ≤ bound →
      ∃ e, library.load (".".intercalate (parts.take n)) = .error e ∧ e.isMissing = true)
    (name : String) :
    resolveDotted library parts name bound =
      (library.classOf? found (parts.drop length)).elim (.error (.unresolved name)) .ok := by
  induction bound with
  | zero => omega
  | succ bound ih =>
      by_cases here : length = bound + 1
      · subst here
        rw [resolveDotted, loaded]
        exact resolveIn_of_loaded loaded _ name
      · obtain ⟨e, failed, missing⟩ := longer (bound + 1) (by omega) (Nat.le_refl _)
        rw [resolveDotted_succ_of_missing failed missing]
        exact ih (by omega) fun n above below => longer n above (by omega)

theorem resolveDotted_of_split {library : Library} {before after : List String} {found : Module}
    (named : before ≠ []) (rest : after ≠ [])
    (loaded : library.load (".".intercalate before) = .ok found)
    (longer : ∀ more less, after = more ++ less → more ≠ [] → less ≠ [] →
      ∃ e, library.load (".".intercalate (before ++ more)) = .error e ∧ e.isMissing = true)
    (name : String) :
    resolveDotted library (before ++ after) name ((before ++ after).length - 1) =
      (library.classOf? found after).elim (.error (.unresolved name)) .ok := by
  have some : 0 < before.length := List.length_pos_of_ne_nil named
  have others : 0 < after.length := List.length_pos_of_ne_nil rest
  have answer := @resolveDotted_of_loaded library (before ++ after) before.length
    ((before ++ after).length - 1) found
  rw [List.take_left, List.drop_left, List.length_append] at answer
  rw [List.length_append]
  refine answer loaded some (by omega) ?_ name
  intro n above below
  -- A longer part is the module with the beginning of the path behind it.
  rw [List.take_append, List.take_of_length_le (by omega)]
  refine longer _ (after.drop (n - before.length)) (List.take_append_drop _ _).symm ?_ ?_
  · exact List.ne_nil_of_length_pos (by rw [List.length_take]; omega)
  · exact List.ne_nil_of_length_pos (by rw [List.length_drop]; omega)

/-- Where no part of a name can be loaded, it leads nowhere. -/
theorem resolveDotted_of_missing {library : Library} {parts : List String} {bound : Nat}
    (absent : ∀ n, 0 < n → n ≤ bound →
      ∃ e, library.load (".".intercalate (parts.take n)) = .error e ∧ e.isMissing = true)
    (name : String) : resolveDotted library parts name bound = .error (.unresolved name) := by
  induction bound with
  | zero => rfl
  | succ bound ih =>
      obtain ⟨e, failed, missing⟩ := absent (bound + 1) (by omega) (Nat.le_refl _)
      rw [resolveDotted_succ_of_missing failed missing]
      exact ih fun n above below => absent n above (by omega)

/-! ### Resolving -/

variable {registry : Registry} {library : Library} {configured : String}

theorem resolve_of_registered {info : ClassInfo}
    (known : registry.get? (Text.trim configured) = some info) (library : Library) :
    registry.resolve library configured = .ok info := by
  simp only [resolve, known]

theorem resolve_of_marked {module path : String}
    (unknown : registry.get? (Text.trim configured) = none)
    (marked : Text.trim configured = module ++ ":" ++ path) (first : ':' ∉ module.toList)
    (library : Library) :
    registry.resolve library configured =
      if module = "" ∨ "" ∈ Library.parts path then .error (.unresolved (Text.trim configured))
      else resolveIn library module (Library.parts path) (Text.trim configured) := by
  have colon := splitColon?_of_marked first path
  rw [← marked] at colon
  have bad : (module.isEmpty || (Library.parts path).any String.isEmpty) = true ↔
      module = "" ∨ "" ∈ Library.parts path := by
    simp [String.isEmpty_iff]
  simp only [resolve, unknown, colon, bad]

theorem resolve_of_unmarked (unknown : registry.get? (Text.trim configured) = none)
    (unmarked : ':' ∉ (Text.trim configured).toList) (library : Library) :
    registry.resolve library configured =
      if "" ∈ Library.parts (Text.trim configured) then .error (.unresolved (Text.trim configured))
      else resolveDotted library (Library.parts (Text.trim configured)) (Text.trim configured)
        ((Library.parts (Text.trim configured)).length - 1) := by
  have bad : (Library.parts (Text.trim configured)).any String.isEmpty = true ↔
      "" ∈ Library.parts (Text.trim configured) := by
    simp [String.isEmpty_iff]
  simp only [resolve, unknown, splitColon?_of_unmarked unmarked, bad]

theorem missing_of_take {name : String} (orderly : library.Orderly)
    (filled : "" ∉ Library.parts name) {n : Nat} (positive : 0 < n)
    (absent : ∀ found, library.load (".".intercalate ((Library.parts name).take n)) ≠ .ok found) :
    ∃ e, library.load (".".intercalate ((Library.parts name).take n)) = .error e ∧
      e.isMissing = true := by
  have nonempty : (Library.parts name).take n ≠ [] := by
    simp [Library.parts_ne_nil, Nat.pos_iff_ne_zero.mp positive]
  have split := (List.take_append_drop n (Library.parts name)).symm
  exact orderly.missing (Library.not_isRelative_of_split filled split nonempty) absent

theorem resolve_of_leads {found : Module} {path : List String} (orderly : library.Orderly)
    (unknown : registry.get? (Text.trim configured) = none)
    (leads : library.Leads (Text.trim configured) found path) :
    registry.resolve library configured =
      (library.classOf? found path).elim (.error (.unresolved (Text.trim configured))) .ok := by
  cases leads with
  | exactly marked first named filled loaded =>
      rw [resolve_of_marked unknown marked first, if_neg (not_or.mpr ⟨named, filled⟩)]
      exact resolveIn_of_loaded loaded _ _
  | longest unmarked filled split named rest loaded longer =>
      rw [resolve_of_unmarked unknown unmarked, if_neg filled, split]
      refine resolveDotted_of_split named rest loaded ?_ _
      intro more less behind some others
      refine orderly.missing ?_ (longer more less behind some others)
      apply Library.not_isRelative_of_split filled
      · rw [split, behind, List.append_assoc]
      · simp [named]

theorem resolve_of_leads_bare {name : String} {found : Module} {path : List String}
    (orderly : library.Orderly) (bare : Text.trim name = name) (unknown : registry.get? name = none)
    (leads : library.Leads name found path) :
    registry.resolve library name =
      (library.classOf? found path).elim (.error (.unresolved name)) .ok := by
  rw [← bare] at unknown leads
  rw [resolve_of_leads orderly unknown leads, bare]

theorem resolve_of_namesRelative {module : String}
    (names : registry.NamesRelative (Text.trim configured) module) (library : Library) :
    registry.resolve library configured = .error (.failed (.relativeName module)) := by
  obtain ⟨unknown, marked, first, filled, relative⟩ := names
  have named : module ≠ "" := by
    rintro rfl
    cases relative
  rw [resolve_of_marked unknown marked first, if_neg (not_or.mpr ⟨named, filled⟩), resolveIn,
    Library.load_of_isRelative library relative]
  rfl

/-- The longest part of a dotted name that can be loaded, if any can. -/
theorem leads_or_absent {name : String} (library : Library) (unmarked : ':' ∉ name.toList)
    (filled : "" ∉ Library.parts name) (bound : Nat)
    (within : bound < (Library.parts name).length)
    (longer : ∀ n, bound < n → n < (Library.parts name).length →
      ∀ found, library.load (".".intercalate ((Library.parts name).take n)) ≠ .ok found) :
    (∃ found path, library.Leads name found path) ∨
      ∀ n, 0 < n → n < (Library.parts name).length →
        ∀ found, library.load (".".intercalate ((Library.parts name).take n)) ≠ .ok found := by
  induction bound with
  | zero => exact .inr longer
  | succ bound ih =>
      cases outcome : library.load (".".intercalate ((Library.parts name).take (bound + 1))) with
      | ok found =>
          left
          refine ⟨found, (Library.parts name).drop (bound + 1), .longest unmarked filled
            (List.take_append_drop _ _).symm ?_ ?_ outcome ?_⟩
          · simp [Library.parts_ne_nil]
          · exact List.ne_nil_of_length_pos (by rw [List.length_drop]; omega)
          · intro more less behind some others
            have count := congrArg List.length behind
            rw [List.length_drop, List.length_append] at count
            have positive : 0 < more.length := List.length_pos_of_ne_nil some
            have remains : 0 < less.length := List.length_pos_of_ne_nil others
            have extended : (Library.parts name).take (bound + 1) ++ more =
                (Library.parts name).take (bound + 1 + more.length) := by
              rw [List.take_add (i := bound + 1), behind, List.take_left]
            rw [extended]
            exact longer _ (by omega) (by omega)
      | error e =>
          apply ih (by omega)
          intro n above below found
          by_cases here : n = bound + 1
          · subst here
            rw [outcome]
            exact nofun
          · exact longer n (by omega) below found

theorem resolve_of_finds {info : ClassInfo} (orderly : library.Orderly)
    (finds : registry.Finds library (Text.trim configured) info) :
    registry.resolve library configured = .ok info := by
  cases finds with
  | registered known => exact resolve_of_registered known library
  | led unknown leads has =>
      rw [resolve_of_leads orderly unknown leads, has]
      rfl

def Settled (registry : Registry) (library : Library) (configured : String) : Prop :=
  (∃ info, registry.Finds library (Text.trim configured) info) ∨
    registry.resolve library configured = .error (.unresolved (Text.trim configured)) ∨
    ∃ module, registry.NamesRelative (Text.trim configured) module

theorem settled_of_leads {found : Module} {path : List String} (orderly : library.Orderly)
    (unknown : registry.get? (Text.trim configured) = none)
    (leads : library.Leads (Text.trim configured) found path) :
    registry.Settled library configured := by
  have answer := resolve_of_leads orderly unknown leads
  cases has : library.classOf? found path with
  | some info => exact .inl ⟨info, .led unknown leads has⟩
  | none =>
      rw [has] at answer
      exact .inr (.inl answer)

theorem settled_of_marked (orderly : library.Orderly)
    (unknown : registry.get? (Text.trim configured) = none)
    (marked : ':' ∈ (Text.trim configured).toList) : registry.Settled library configured := by
  obtain ⟨module, path, same, first⟩ := exists_of_marked marked
  have step := resolve_of_marked unknown same first library
  split at step
  next bad => exact .inr (.inl step)
  next good =>
    obtain ⟨named, filled⟩ := not_or.mp good
    by_cases relative : Library.IsRelative module
    · exact .inr (.inr ⟨module, unknown, same, first, filled, relative⟩)
    · cases outcome : library.load module with
      | ok found => exact settled_of_leads orderly unknown (.exactly same first named filled outcome)
      | error e =>
          rw [resolveIn_of_missing outcome (orderly module e relative outcome)] at step
          exact .inr (.inl step)

theorem settled_of_unmarked (orderly : library.Orderly)
    (unknown : registry.get? (Text.trim configured) = none)
    (unmarked : ':' ∉ (Text.trim configured).toList) : registry.Settled library configured := by
  have step := resolve_of_unmarked unknown unmarked library
  split at step
  next bad => exact .inr (.inl step)
  next filled =>
    have positive := List.length_pos_of_ne_nil (Library.parts_ne_nil (Text.trim configured))
    rcases leads_or_absent library unmarked filled
        ((Library.parts (Text.trim configured)).length - 1) (by omega) (by omega) with
      ⟨found, path, leads⟩ | absent
    · exact settled_of_leads orderly unknown leads
    · rw [resolveDotted_of_missing fun n above below =>
        missing_of_take orderly filled above (absent n above (by omega))] at step
      exact .inr (.inl step)

theorem settled (orderly : library.Orderly) (registry : Registry) (configured : String) :
    registry.Settled library configured := by
  cases known : registry.get? (Text.trim configured) with
  | some info => exact .inl ⟨info, .registered known⟩
  | none =>
      by_cases marked : ':' ∈ (Text.trim configured).toList
      · exact settled_of_marked orderly known marked
      · exact settled_of_unmarked orderly known marked

/-! ### Every answer -/

/-- The answers for a name: of the resolving, and of the look for a provider. -/
inductive Answers (registry : Registry) (library : Library) (configured : String) :
    Except ResolveError ClassInfo → Except WiringError ClassInfo → Prop
  | found {info : ClassInfo} (finds : registry.Finds library (Text.trim configured) info) :
      Answers registry library configured (.ok info) (.ok info)
  | nowhere (none : ∀ info, ¬ registry.Finds library (Text.trim configured) info)
      (absolute : ∀ module, ¬ registry.NamesRelative (Text.trim configured) module) :
      Answers registry library configured (.error (.unresolved (Text.trim configured)))
        (.error (.config (.providerNotFound configured)))
  | relative {module : String}
      (names : registry.NamesRelative (Text.trim configured) module) :
      Answers registry library configured (.error (.failed (.relativeName module)))
        (.error (.load (.relativeName module)))

/-- Where every absolute name is loaded or missing, a name resolves to a class exactly if it finds
one, fails to load exactly if it names a relative module, and is unresolved in every other case. A
provider that is unresolved is an error of the configuration. -/
theorem resolve_eq_iff_answers (orderly : library.Orderly) (registry : Registry)
    (configured : String) (answer : Except ResolveError ClassInfo)
    (provider : Except WiringError ClassInfo) :
    (registry.resolve library configured = answer ∧
      providerClass registry library configured = provider) ↔
      registry.Answers library configured answer provider := by
  constructor
  · rintro ⟨rfl, rfl⟩
    rw [providerClass]
    rcases settled orderly registry configured with ⟨info, finds⟩ | unresolved | ⟨module, names⟩
    · rw [resolve_of_finds orderly finds]
      exact .found finds
    · rw [unresolved]
      refine .nowhere ?_ ?_
      · intro info finds
        rw [resolve_of_finds orderly finds] at unresolved
        cases unresolved
      · intro module names
        rw [resolve_of_namesRelative names] at unresolved
        cases unresolved
    · rw [resolve_of_namesRelative names]
      exact .relative names
  · intro answers
    rw [providerClass]
    cases answers with
    | found finds =>
        rw [resolve_of_finds orderly finds]
        exact ⟨rfl, rfl⟩
    | nowhere none absolute =>
        rcases settled orderly registry configured with ⟨info, finds⟩ | unresolved | ⟨module, names⟩
        · exact absurd finds (none info)
        · rw [unresolved]
          exact ⟨rfl, rfl⟩
        · exact absurd names (absolute module)
    | relative names =>
        rw [resolve_of_namesRelative names]
        exact ⟨rfl, rfl⟩

end Registry

namespace Sample

def libraryOf (modules : List Module) : Library where
  find path :=
    match modules.find? fun module => module.name == ".".intercalate path with
    | some module => .ok module
    | none => .error .notFound

theorem libraryOf_orderly (modules : List Module) : (libraryOf modules).Orderly := by
  apply Library.orderly_of_find
  intro path e failed
  dsimp only [libraryOf] at failed
  split at failed
  · cases failed
  · cases failed
    rfl

end Sample

theorem Registry.resolve_eq_iff_answers_nested :
    (Sample.libraryOf Sample.modules).Orderly ∧
      Registry.initial.Answers (Sample.libraryOf Sample.modules) " acme.sub.Widget.Deep"
        (.ok (Sample.plainClass "acme.sub" ["Widget", "Deep"]))
        (.ok (Sample.plainClass "acme.sub" ["Widget", "Deep"])) :=
  ⟨Sample.libraryOf_orderly Sample.modules,
    (Registry.resolve_eq_iff_answers (Sample.libraryOf_orderly Sample.modules) Registry.initial
      _ _ _).mp ⟨by with_unfolding_all rfl, by with_unfolding_all rfl⟩⟩

/-- A name whose module is relative fails to load, where every absolute name is loaded or missing. -/
theorem Registry.resolve_relative :
    (Sample.libraryOf Sample.modules).Orderly ∧
      Registry.initial.resolve (Sample.libraryOf Sample.modules) ".acme:Filter" =
        .error (.failed (.relativeName ".acme")) ∧
      providerClass Registry.initial (Sample.libraryOf Sample.modules) ".acme:Filter" =
        .error (.load (.relativeName ".acme")) :=
  ⟨Sample.libraryOf_orderly Sample.modules, by with_unfolding_all rfl, by with_unfolding_all rfl⟩

end ClientWiring
