import ClientWiring.Proofs.Config.Shared
import Mathlib.Data.List.DropRight
set_option autoImplicit false

/-! What an application keeps over a history of accesses, resets and changes of its site. The typed
root and the legacy source are those of the first load that succeeded since the last reset, the
settings those of the first since they were last cleared; what changed at the site meanwhile is not
seen. A load that fails keeps nothing and stands in the way of no other. -/

namespace ClientWiring.Application

/-! ### Histories -/

/-- One thing that is done with an application, or with the site where it runs. -/
inductive Action where
  | askSettings
  | askRoot
  | askClient (owner : String)
  | askSource
  | reset
  | clearSettings
  | setVariable (name value : String)
  | unsetVariable (name : String)
  | write (path : String) (entry : FileEntry)

namespace Action

def run : Action → Application → Application
  | askSettings, app => (Access.settings.run app).2
  | askRoot, app => (Access.root.run app).2
  | askClient owner, app => ((Access.client? owner).run app).2
  | askSource, app => (Access.source.run app).2
  | reset, app => app.reset
  | clearSettings, app => app.clearSettings
  | setVariable name value, app => app.setVariable name value
  | unsetVariable name, app => app.unsetVariable name
  | write path entry, app => app.write path entry

def isReset : Action → Bool
  | reset => true
  | _ => false

def isClearing : Action → Bool
  | clearSettings => true
  | _ => false

def isChange : Action → Bool
  | setVariable _ _ | unsetVariable _ | write _ _ => true
  | _ => false

def root? : Action → Application → Option (Loaded ConfigRoot)
  | askRoot, app | askClient _, app => app.freshRoot.toOption
  | _, _ => none

def source? : Action → Application → Option (Loaded PropertySource)
  | askSource, app => app.freshSource.toOption
  | _, _ => none

/-- The settings that an action loads, where none are kept. Neither a root nor a source that is kept
asks for them. -/
def settings? : Action → Application → Option Settings
  | askSettings, app => (Settings.load app.site []).toOption
  | askRoot, app | askClient _, app =>
    if app.root.isSome then none else (Settings.load app.site []).toOption
  | askSource, app => if app.source.isSome then none else (Settings.load app.site []).toOption
  | _, _ => none

end Action

def after (app : Application) (history : List Action) : Application :=
  history.foldl (fun app action => action.run app) app

def met (app : Application) : List Action → List (Application × Action)
  | [] => []
  | action :: rest => (app, action) :: met (action.run app) rest

theorem after_concat (app : Application) (history : List Action) (action : Action) :
    app.after (history ++ [action]) = action.run (app.after history) := by
  unfold after
  rw [List.foldl_concat]

theorem met_concat (app : Application) (history : List Action) (action : Action) :
    app.met (history ++ [action]) = app.met history ++ [(app.after history, action)] := by
  induction history generalizing app with
  | nil => rfl
  | cons first rest ih =>
      rw [List.cons_append, met, ih]
      rfl

/-! ### What is kept -/

section Kept

variable {κ : Type} (drops : Action → Bool) (take? : Action → Application → Option κ)

/-- What the first action that took something has taken, among those since it was last dropped. -/
def keptSince (steps : List (Application × Action)) : Option κ :=
  (steps.rtakeWhile fun step => !drops step.2).findSome? fun step => take? step.2 step.1

theorem keptSince_concat (steps : List (Application × Action)) (app : Application)
    (action : Action) :
    keptSince drops take? (steps ++ [(app, action)]) =
      if drops action then none else (keptSince drops take? steps).or (take? action app) := by
  unfold keptSince
  rw [List.rtakeWhile_concat]
  cases drops action with
  | true => rfl
  | false =>
      simp only [Bool.not_false, if_true, Bool.false_eq_true, if_false, List.findSome?_append,
        List.findSome?_cons, List.findSome?_nil]
      cases take? action app <;> rfl

/-- A part of an application that every action drops, or keeps, or takes where there is none, is
what was taken first since it was last dropped. -/
theorem kept_after {part : Application → Option κ}
    (step : ∀ action app, part (action.run app) =
      if drops action then none else (part app).or (take? action app))
    {start : Application} (nothing : part start = none) (history : List Action) :
    part (start.after history) = keptSince drops take? (start.met history) := by
  -- From the end of the history: its last action decides whether anything before it counts.
  induction history using List.reverseRecOn with
  | nil => exact nothing
  | append_singleton history action ih =>
      rw [after_concat, met_concat, keptSince_concat, step, ih]

end Kept

/-! ### Accesses -/

section Access

variable (app : Application)

theorem toOption_settingsOrLoaded :
    app.settingsOrLoaded.toOption = app.settings.or (Settings.load app.site []).toOption := by
  unfold settingsOrLoaded
  cases app.settings with
  | some settings => rfl
  | none => cases Settings.load app.site [] <;> rfl

/-- Asking for the root: one that is kept is given, and otherwise one is loaded, and kept if it can be
had. The settings are asked for only in the second case. -/
theorem run_root_eq : Access.root.run app =
    (app.root.elim app.freshRoot .ok,
      { app with
        settings := if app.root.isSome then app.settings else app.settingsOrLoaded.toOption
        root := app.root.or app.freshRoot.toOption
        loads := app.loads + (app.root.isNone && app.freshRoot.toBool).toNat }) := by
  cases kept : app.root with
  | some root =>
      rw [Access.run_root_of_kept kept]
      obtain ⟨site, settings, _, source, loads⟩ := app
      cases kept
      rfl
  | none =>
      rw [Access.run_root kept]
      cases app.freshRoot with
      | ok fresh => rfl
      | error e =>
          dsimp only
          unfold settled
          rw [kept]
          rfl

theorem run_source_eq : Access.source.run app =
    (app.source.elim app.freshSource .ok,
      { app with
        settings := if app.source.isSome then app.settings else app.settingsOrLoaded.toOption
        source := app.source.or app.freshSource.toOption
        loads := app.loads + (app.source.isNone && app.freshSource.toBool).toNat }) := by
  cases kept : app.source with
  | some source =>
      rw [Access.run_source_of_kept kept]
      obtain ⟨site, settings, root, _, loads⟩ := app
      cases kept
      rfl
  | none =>
      rw [Access.run_source kept]
      cases app.freshSource with
      | ok fresh => rfl
      | error e =>
          dsimp only
          unfold settled
          rw [kept]
          rfl

end Access

/-! ### One action -/

namespace Action

variable (action : Action) (app : Application)

theorem run_askClient (owner : String) : (askClient owner).run app = askRoot.run app :=
  congrArg Prod.snd (Access.run_client? owner app)

theorem root_run : (action.run app).root =
    if action.isReset then none else app.root.or (action.root? app) := by
  have root : (askRoot.run app).root = app.root.or app.freshRoot.toOption :=
    congrArg (fun run => run.2.root) app.run_root_eq
  cases action with
  | askSettings =>
      rw [run, Access.run_settings]
      exact (Option.or_none).symm
  | askRoot => exact root
  | askClient owner =>
      rw [run_askClient]
      exact root
  | askSource =>
      rw [run, run_source_eq]
      exact (Option.or_none).symm
  | reset => rfl
  | _ => exact (Option.or_none).symm

theorem source_run : (action.run app).source =
    if action.isReset then none else app.source.or (action.source? app) := by
  have root : (askRoot.run app).source = app.source.or none :=
    (congrArg (fun run => run.2.source) app.run_root_eq).trans (Option.or_none).symm
  cases action with
  | askSettings =>
      rw [run, Access.run_settings]
      exact (Option.or_none).symm
  | askRoot => exact root
  | askClient owner =>
      rw [run_askClient]
      exact root
  | askSource => exact congrArg (fun run => run.2.source) app.run_source_eq
  | reset => rfl
  | _ => exact (Option.or_none).symm

theorem settings_run : (action.run app).settings =
    if action.isClearing then none else app.settings.or (action.settings? app) := by
  -- An access with something kept does not come to the settings; any other one loads them.
  have asked (kept : Bool) :
      (if kept then app.settings else app.settingsOrLoaded.toOption) =
        app.settings.or (if kept then none else (Settings.load app.site []).toOption) := by
    cases kept with
    | true => exact (Option.or_none).symm
    | false => exact app.toOption_settingsOrLoaded
  have root : (askRoot.run app).settings = app.settings.or (askRoot.settings? app) :=
    (congrArg (fun run => run.2.settings) app.run_root_eq).trans (asked app.root.isSome)
  cases action with
  | askSettings =>
      rw [run, Access.run_settings]
      exact app.toOption_settingsOrLoaded
  | askRoot => exact root
  | askClient owner =>
      rw [run_askClient]
      exact root
  | askSource =>
      rw [run, run_source_eq]
      exact asked app.source.isSome
  | clearSettings => rfl
  | _ => exact (Option.or_none).symm

theorem root_run_change (change : action.isChange = true) : (action.run app).root = app.root := by
  cases action with
  | setVariable | unsetVariable | write => rfl
  | _ => cases change

end Action

/-! ### Whole histories -/

theorem root_after_changes (app : Application) {changes : List Action}
    (only : ∀ change ∈ changes, change.isChange = true) : (app.after changes).root = app.root := by
  induction changes generalizing app with
  | nil => rfl
  | cons change rest ih =>
      have kept := change.root_run_change app (only change List.mem_cons_self)
      exact (ih (change.run app) fun later member =>
        only later (List.mem_cons_of_mem change member)).trans kept

theorem settingsOrLoaded_settled (app : Application) :
    app.settled.settingsOrLoaded = app.settingsOrLoaded := by
  unfold settled settingsOrLoaded
  cases app.settings with
  | some settings => rfl
  | none => cases Settings.load app.site [] <;> simp [Except.toOption, Except.mapError]

theorem freshSource_settled (app : Application) : app.settled.freshSource = app.freshSource := by
  unfold freshSource Application.properties
  rw [settingsOrLoaded_settled]
  rfl

/-- A root that cannot be had is not kept, and asking for it has at most loaded the settings. -/
theorem root_failed {app : Application} {e : SharedError}
    (failed : (Access.root.run app).1 = .error e) :
    app.root = none ∧ app.freshRoot = .error e ∧ (Access.root.run app).2 = app.settled := by
  cases kept : app.root with
  | some root =>
      rw [Access.run_root_of_kept kept] at failed
      cases failed
  | none =>
      rw [Access.run_root kept] at failed ⊢
      cases fresh : app.freshRoot with
      | ok root =>
          rw [fresh] at failed
          cases failed
      | error cause =>
          rw [fresh] at failed
          cases failed
          exact ⟨rfl, rfl, rfl⟩

/-- How an application with a history answers: what it keeps is what was loaded first, and what it
does not keep it loads from its site as this is now. -/
structure Disciplined (app : Application) (steps : List (Application × Action)) : Prop where
  settings : (Access.settings.run app).1 = (keptSince Action.isClearing Action.settings? steps).elim
    ((Settings.load app.site []).mapError .settings) .ok
  root : (Access.root.run app).1 =
    (keptSince Action.isReset Action.root? steps).elim app.freshRoot .ok
  client : ∀ owner, ((Access.client? owner).run app).1 =
    ((keptSince Action.isReset Action.root? steps).elim app.freshRoot .ok).map fun root =>
      root.value.client? owner
  source : (Access.source.run app).1 =
    (keptSince Action.isReset Action.source? steps).elim app.freshSource .ok
  /-- A root that cannot be had changes nothing that is kept, and is no obstacle to the source. -/
  failure : ∀ e, (Access.root.run app).1 = .error e →
    let failed := (Access.root.run app).2
    failed.root = app.root ∧ failed.source = app.source ∧ failed.site = app.site ∧
      (Access.source.run failed).1 = (Access.source.run app).1 ∧
      ∀ cause, e = .config cause → ∃ source, (Access.source.run failed).1 = .ok source
  /-- It is loaded again when it is asked for next, with success once the properties are repaired. -/
  repair : ∀ e, (Access.root.run app).1 = .error e →
    ∀ changes, (∀ change ∈ changes, Action.isChange change = true) →
    let repaired := (Access.root.run app).2.after changes
    ∀ properties root, repaired.properties = .ok properties →
      ConfigRoot.ofProperties properties = .ok root →
      (Access.root.run repaired).1 = .ok ⟨root, repaired.loads⟩
  /-- After a reset the root and the source are loaded from the site, with the same settings. -/
  reset : app.reset.settings = app.settings ∧ app.reset.site = app.site ∧
    (Access.root.run app.reset).1 = app.reset.freshRoot ∧
    (Access.source.run app.reset).1 = app.reset.freshSource

theorem disciplined_after (site : Site) (history : List Action) :
    Disciplined ((start site).after history) ((start site).met history) := by
  have root : ((start site).after history).root =
      keptSince Action.isReset Action.root? ((start site).met history) :=
    kept_after _ _ Action.root_run rfl history
  have source : ((start site).after history).source =
      keptSince Action.isReset Action.source? ((start site).met history) :=
    kept_after _ _ Action.source_run rfl history
  have settings : ((start site).after history).settings =
      keptSince Action.isClearing Action.settings? ((start site).met history) :=
    kept_after _ _ Action.settings_run rfl history
  generalize (start site).after history = app at *
  refine ⟨?_, ?_, ?_, ?_, ?_, ?_, ?_⟩
  · rw [Access.run_settings, ← settings]
    rfl
  · rw [← root, run_root_eq]
  · intro owner
    rw [← root, Access.run_client?, run_root_eq]
  · rw [← source, run_source_eq]
  · intro e failed
    obtain ⟨unkept, fresh, after⟩ := root_failed failed
    have same : (Access.source.run app.settled).1 = (Access.source.run app).1 := by
      rw [run_source_eq, run_source_eq, freshSource_settled]
      rfl
    rw [after]
    refine ⟨rfl, rfl, rfl, same, ?_⟩
    -- A root that is refused shows that the properties can be read, and the source needs no more.
    rintro cause rfl
    obtain ⟨properties, read, -⟩ := (app.freshRoot_eq_config_iff cause).mp fresh
    rw [same, run_source_eq]
    unfold freshSource
    rw [read]
    cases app.source with
    | some source => exact ⟨source, rfl⟩
    | none => exact ⟨_, rfl⟩
  · intro e failed changes only repaired properties found read decoded
    obtain ⟨unkept, -, after⟩ := root_failed failed
    have reloads : repaired.root = none := by
      dsimp only [repaired]
      rw [after, root_after_changes app.settled only]
      exact unkept
    rw [run_root_eq, reloads]
    exact (freshRoot_eq_ok_iff _ _).mpr ⟨properties, read, decoded, rfl⟩
  · refine ⟨rfl, rfl, ?_, ?_⟩
    · exact congrArg Prod.fst app.reset.run_root_eq
    · exact congrArg Prod.fst app.reset.run_source_eq

end ClientWiring.Application
