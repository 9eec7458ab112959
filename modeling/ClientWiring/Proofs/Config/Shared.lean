import ClientWiring.Config.Shared
import ClientWiring.Proofs.Dictionary
import ClientWiring.Proofs.Stateful
set_option autoImplicit false

/-! Loading the shared configuration of an application. The typed root and the legacy source are
loaded from the same properties: those that the file of the application defines, with the environment
over them. -/

namespace ClientWiring

open Stateful (run_bind_ok run_bind_error run_get_bind)

/-! ### The variables of a file -/

namespace EnvFile

theorem nodup_keys_resolve (environment : Dictionary String) (bindings : List Binding) :
    (resolve environment bindings).keys.Nodup := by
  unfold resolve
  suffices folded : ∀ above : Dictionary (Option String), above.keys.Nodup →
      (bindings.foldl (fun above binding =>
        above.insert binding.name
          (binding.value.map fun value => String.ofList (expand (meaning environment above) value)))
        above).keys.Nodup from folded [] List.nodup_nil
  induction bindings with
  | nil => exact fun _ distinct => distinct
  | cons binding rest ih =>
      intro above distinct
      exact ih _ (Dictionary.nodup_keys_insert distinct _ _)

theorem keys_values_sublist (defined : Dictionary (Option String)) :
    (values defined).keys.Sublist defined.keys := by
  induction defined with
  | nil => exact .slnil
  | cons entry rest ih =>
      obtain ⟨name, value⟩ := entry
      cases value with
      | none => exact ih.cons name
      | some value => exact ih.cons_cons name

end EnvFile

namespace Settings

theorem splitOn_defaultsFile : defaultsFile.splitOn "/" = [defaultsFile] := by
  unfold String.splitOn defaultsFile
  rw [if_neg (by decide)]
  iterate 4 rw [String.splitOnAux, if_neg (by decide), if_neg (by decide)]
  rw [String.splitOnAux, if_pos (by decide)]
  decide

theorem read?_defaultsFile {tree : FileTree} (home : tree.home = []) :
    tree.read? defaultsFile = (tree.entry? [defaultsFile]).bind FileEntry.content? := by
  have named : FileTree.asksForDirectory defaultsFile = false := by
    unfold FileTree.asksForDirectory
    rw [splitOn_defaultsFile]
    decide
  have parts : FileTree.parts defaultsFile = [defaultsFile] := by
    unfold FileTree.parts
    rw [splitOn_defaultsFile]
    decide
  have relative : defaultsFile.startsWith "/" = false := by
    rw [← Bool.not_eq_true, String.startsWith_string_iff]
    decide
  have steps : tree.steps [] defaultsFile = [defaultsFile] := by
    rw [FileTree.steps, relative, if_neg Bool.false_ne_true, home, parts]
    rfl
  have text : FileTree.joined [] defaultsFile = defaultsFile := by
    rw [FileTree.joined, relative, if_neg Bool.false_ne_true, parts, FileTree.asText,
      if_neg (by simp), List.nil_append, String.intercalate_singleton]
  have plain : ¬ defaultsFile.toList.contains '\x00' = true := by decide
  have short : ¬ FileTree.pathLimit ≤ defaultsFile.utf8ByteSize := by decide
  have shortName : ¬ FileTree.maxName < defaultsFile.utf8ByteSize := by decide
  have downwards : defaultsFile ≠ ".." := by decide
  have atRoot : tree.entry? [] = some .directory := rfl
  unfold FileTree.read? FileTree.lookup
  rw [named, steps, text, if_neg plain, if_neg short]
  simp only [Bool.false_eq_true, if_false, List.nil_append, FileTree.walk, atRoot]
  rw [if_neg downwards, if_neg shortName]
  cases tree.entry? [defaultsFile] <;> rfl

theorem nodup_keys_variablesAt {site : Site} {path : String}
    {found : Dictionary (Option String)} (defined : variablesAt site path = .ok found) :
    found.keys.Nodup := by
  unfold variablesAt EnvFile.read at defined
  split at defined
  · cases defined
    exact List.nodup_nil
  next bytes _ =>
    cases decoded : Text.readStrict "utf-8" (Text.utf8 false) 0 [] bytes with
    | error fault =>
        rw [decoded] at defined
        cases defined
    | ok cs =>
        rw [decoded] at defined
        cases defined
        exact EnvFile.nodup_keys_resolve _ _

def fileVariables (settings : Settings) (site : Site) : Dictionary String :=
  if settings.envFile.isEmpty then []
  else (variablesAt site settings.envFile).toOption.elim [] EnvFile.values

theorem nodup_keys_fileVariables (settings : Settings) (site : Site) :
    (settings.fileVariables site).keys.Nodup := by
  unfold fileVariables
  split
  · exact List.nodup_nil
  · cases defined : variablesAt site settings.envFile with
    | error fault => exact List.nodup_nil
    | ok found => exact (nodup_keys_variablesAt defined).sublist (EnvFile.keys_values_sublist found)

theorem properties_eq_ok {settings : Settings} {site : Site} {properties : Dictionary String}
    (loaded : settings.properties site = .ok properties) :
    properties = (settings.fileVariables site).merge site.environment := by
  unfold Settings.properties at loaded
  unfold fileVariables
  split at loaded
  next none =>
    cases loaded
    rw [if_pos none]
  next named =>
    rw [if_neg named]
    cases defined : variablesAt site settings.envFile with
    | error fault =>
        rw [defined] at loaded
        cases loaded
    | ok found =>
        rw [defined] at loaded
        cases loaded
        rfl

end Settings

/-! ### Loading -/

def Application.settingsOrLoaded (app : Application) : Except SharedError Settings :=
  app.settings.elim ((Settings.load app.site []).mapError .settings) .ok

def Application.fileVariables (app : Application) : Dictionary String :=
  app.settingsOrLoaded.toOption.elim [] fun settings => settings.fileVariables app.site

namespace Application

def settled (app : Application) : Application :=
  { app with settings := app.settingsOrLoaded.toOption }

def properties (app : Application) : Except SharedError (Dictionary String) :=
  app.settingsOrLoaded.bind fun settings =>
    (settings.properties app.site).mapError fun fault => .settings (.undecodable fault)

def freshRoot (app : Application) : Except SharedError (Loaded ConfigRoot) :=
  app.properties.bind fun properties =>
    ((ConfigRoot.ofProperties properties).mapError .config).map fun root => ⟨root, app.loads⟩

def freshSource (app : Application) : Except SharedError (Loaded PropertySource) :=
  app.properties.map fun properties => ⟨⟨properties⟩, app.loads⟩

end Application

namespace Access

theorem run_ofExcept {ε α : Type} (toError : ε → SharedError) (result : Except ε α)
    (app : Application) : (ofExcept toError result).run app = (result.mapError toError, app) := by
  cases result <;> rfl

/-- The settings are kept if they can be loaded, and nothing else changes. -/
theorem run_settings (app : Application) : settings.run app = (app.settingsOrLoaded, app.settled) := by
  obtain ⟨site, kept, root, source, loads⟩ := app
  unfold settings
  rw [run_get_bind]
  cases kept with
  | some kept => rfl
  | none =>
      have loading := run_ofExcept SharedError.settings (Settings.load site [])
        ⟨site, none, root, source, loads⟩
      dsimp only [Application.settled, Application.settingsOrLoaded, Option.elim_none]
      cases loaded : (Settings.load site []).mapError SharedError.settings with
      | error e =>
          rw [loaded] at loading
          exact run_bind_error loading
      | ok settings =>
          rw [loaded] at loading
          exact run_bind_ok loading

theorem run_properties (app : Application) : properties.run app = (app.properties, app.settled) := by
  have ran := run_settings app
  unfold properties Application.properties
  cases kept : app.settingsOrLoaded with
  | error e =>
      rw [kept] at ran
      rw [run_bind_error ran]
      rfl
  | ok settings =>
      rw [kept] at ran
      rw [run_bind_ok ran, run_get_bind, run_ofExcept]
      rfl

theorem run_root_of_kept {app : Application} {root : Loaded ConfigRoot}
    (kept : app.root = some root) : Access.root.run app = (.ok root, app) := by
  unfold Access.root
  rw [run_get_bind, kept]
  rfl

/-- A root that is not kept is loaded; it is kept then, if it can be loaded. -/
theorem run_root {app : Application} (unloaded : app.root = none) :
    root.run app = match app.freshRoot with
      | .ok fresh => (.ok fresh, { app.settled with root := some fresh, loads := app.loads + 1 })
      | .error e => (.error e, app.settled) := by
  have read := run_properties app
  unfold root Application.freshRoot
  rw [run_get_bind, unloaded]
  dsimp only
  cases given : app.properties with
  | error e =>
      rw [given] at read
      rw [run_bind_error read]
      rfl
  | ok properties =>
      rw [given] at read
      rw [run_bind_ok read]
      have loading := run_ofExcept SharedError.config (ConfigRoot.ofProperties properties)
        app.settled
      simp only [Except.bind]
      cases loaded : ConfigRoot.ofProperties properties with
      | error e =>
          rw [loaded] at loading
          rw [run_bind_error loading]
          rfl
      | ok root =>
          rw [loaded] at loading
          rw [run_bind_ok loading, run_get_bind]
          rfl

theorem run_source_of_kept {app : Application} {source : Loaded PropertySource}
    (kept : app.source = some source) : Access.source.run app = (.ok source, app) := by
  unfold Access.source
  rw [run_get_bind, kept]
  rfl

theorem run_source {app : Application} (unloaded : app.source = none) :
    source.run app = match app.freshSource with
      | .ok fresh => (.ok fresh, { app.settled with source := some fresh, loads := app.loads + 1 })
      | .error e => (.error e, app.settled) := by
  have read := run_properties app
  unfold source Application.freshSource
  rw [run_get_bind, unloaded]
  dsimp only
  cases given : app.properties with
  | error e =>
      rw [given] at read
      rw [run_bind_error read]
      rfl
  | ok properties =>
      rw [given] at read
      rw [run_bind_ok read, run_get_bind]
      rfl

theorem run_client? (owner : String) (app : Application) :
    (client? owner).run app =
      ((root.run app).1.map fun root => root.value.client? owner, (root.run app).2) := by
  unfold client?
  rcases loaded : root.run app with ⟨error | root, after⟩
  · rw [run_bind_error loaded]
    rfl
  · rw [run_bind_ok loaded]
    rfl

end Access

namespace Application

theorem nodup_keys_fileVariables (app : Application) : app.fileVariables.keys.Nodup := by
  unfold fileVariables
  cases app.settingsOrLoaded with
  | error e => exact List.nodup_nil
  | ok settings => exact settings.nodup_keys_fileVariables app.site

theorem properties_eq_ok {app : Application} {properties : Dictionary String}
    (loaded : app.properties = .ok properties) :
    properties = app.fileVariables.merge app.site.environment := by
  unfold Application.properties at loaded
  unfold fileVariables
  cases kept : app.settingsOrLoaded with
  | error e =>
      rw [kept] at loaded
      cases loaded
  | ok settings =>
      rw [kept] at loaded
      dsimp only [Except.bind] at loaded
      cases read : settings.properties app.site with
      | error fault =>
          rw [read] at loaded
          cases loaded
      | ok found =>
          rw [read] at loaded
          cases loaded
          exact Settings.properties_eq_ok read

theorem freshRoot_eq_ok_iff (app : Application) (root : Loaded ConfigRoot) :
    app.freshRoot = .ok root ↔
      ∃ properties, app.properties = .ok properties ∧
        ConfigRoot.ofProperties properties = .ok root.value ∧ root.serial = app.loads := by
  unfold freshRoot
  cases app.properties with
  | error e => exact ⟨nofun, nofun⟩
  | ok properties =>
      simp only [Except.bind]
      cases decoded : ConfigRoot.ofProperties properties with
      | error e =>
          refine ⟨nofun, ?_⟩
          rintro ⟨other, same, loaded, -⟩
          cases same
          cases decoded.symm.trans loaded
      | ok value =>
          constructor
          · intro same
            cases same
            exact ⟨properties, rfl, decoded, rfl⟩
          · obtain ⟨found, serial⟩ := root
            rintro ⟨other, same, loaded, rfl⟩
            cases same
            cases decoded.symm.trans loaded
            rfl

/-- Properties cannot be read for a fault of the settings or of their file, never for what they
configure. -/
theorem properties_eq_error {app : Application} {e : SharedError}
    (failed : app.properties = .error e) : ∃ cause, e = .settings cause := by
  unfold Application.properties settingsOrLoaded at failed
  have unread {settings : Settings}
      (failed : ((settings.properties app.site).mapError fun fault =>
        SharedError.settings (.undecodable fault)) = .error e) : ∃ cause, e = .settings cause := by
    cases read : settings.properties app.site with
    | error fault =>
        rw [read] at failed
        cases failed
        exact ⟨_, rfl⟩
    | ok properties =>
        rw [read] at failed
        cases failed
  cases kept : app.settings with
  | some settings =>
      rw [kept] at failed
      exact unread failed
  | none =>
      rw [kept] at failed
      cases loaded : Settings.load app.site [] with
      | error cause =>
          rw [loaded] at failed
          cases failed
          exact ⟨cause, rfl⟩
      | ok settings =>
          rw [loaded] at failed
          exact unread failed

/-- The typed root is refused for the configuration exactly if the properties can be read and are no
configuration. -/
theorem freshRoot_eq_config_iff (app : Application) (cause : ConfigError) :
    app.freshRoot = .error (.config cause) ↔
      ∃ properties, app.properties = .ok properties ∧
        ConfigRoot.ofProperties properties = .error cause := by
  unfold freshRoot
  cases read : app.properties with
  | error e =>
      constructor
      · intro failed
        cases failed
        obtain ⟨fault, other⟩ := properties_eq_error read
        cases other
      · exact nofun
  | ok properties =>
      simp only [Except.bind]
      cases decoded : ConfigRoot.ofProperties properties with
      | error e =>
          constructor
          · intro same
            cases same
            exact ⟨properties, rfl, decoded⟩
          · rintro ⟨other, same, refused⟩
            cases same
            cases decoded.symm.trans refused
            rfl
      | ok root =>
          refine ⟨nofun, ?_⟩
          rintro ⟨other, same, refused⟩
          cases same
          cases decoded.symm.trans refused

theorem root_eq_ok {app : Application} {root : Loaded ConfigRoot} (unloaded : app.root = none)
    (loaded : (Access.root.run app).1 = .ok root) :
    ConfigRoot.ofProperties (app.fileVariables.merge app.site.environment) = .ok root.value := by
  rw [Access.run_root unloaded] at loaded
  cases fresh : app.freshRoot with
  | error e =>
      rw [fresh] at loaded
      cases loaded
  | ok found =>
      rw [fresh] at loaded
      cases loaded
      obtain ⟨properties, read, decoded, -⟩ := (app.freshRoot_eq_ok_iff root).mp fresh
      rwa [← properties_eq_ok read]

theorem source_eq_ok {app : Application} {source : Loaded PropertySource}
    (unloaded : app.source = none) (loaded : (Access.source.run app).1 = .ok source) :
    source.value.properties = app.fileVariables.merge app.site.environment := by
  rw [Access.run_source unloaded] at loaded
  unfold freshSource at loaded
  cases read : app.properties with
  | error e =>
      rw [read] at loaded
      cases loaded
  | ok properties =>
      rw [read] at loaded
      cases loaded
      exact properties_eq_ok read

end Application

end ClientWiring
