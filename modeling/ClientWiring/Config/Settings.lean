import ClientWiring.Config.Client
import ClientWiring.Config.EnvFile
import ClientWiring.Files.Tree
import ClientWiring.Text.UpperCase
set_option autoImplicit false

/-! The settings of the library itself: where the properties of the application are, and how it
logs. Each setting comes from the first of four sources that has it: the caller, the environment,
the file of default variables, and a default. The properties of the application are those of a file,
overridden by the environment. -/

namespace ClientWiring

/-- Where an application runs: its environment variables and the files below its directory. -/
structure Site where
  environment : Dictionary String
  tree : FileTree
  deriving Repr, Inhabited

structure Settings where
  /-- The file of the application's properties; an empty name stands for none. -/
  envFile : String
  logLevel : String
  /-- The file that is logged to; an empty name stands for none. -/
  logFile : String
  deriving DecidableEq, Repr, Inhabited

inductive SettingsError where
  | undecodable (fault : Text.ByteFault)
  | invalid (issues : List Issue)
  deriving DecidableEq, Repr

namespace Settings

def defaultsFile : String := ".env"

def default : Settings := ⟨defaultsFile, "INFO", ""⟩

def variablePrefix : String := "restclient_"

/-- The variables that a file at a path defines; none where there is no file. -/
def variablesAt (site : Site) (path : String) :
    Except Text.ByteFault (Dictionary (Option String)) :=
  match site.tree.read? path with
  | none => .ok []
  | some bytes => EnvFile.read site.environment bytes

/-- Variables under their names in small letters; of names that differ in case alone the last
counts. -/
def byLowerName {α : Type} (entries : Dictionary α) : Dictionary α :=
  Dictionary.ofPairs (entries.map fun entry => (Text.lowerAscii entry.1, entry.2))

def fromVariables (environment : Dictionary String) (defaults : Dictionary (Option String))
    (field : String) : Option String :=
  let name := variablePrefix ++ field
  match (byLowerName environment).get? name with
  | some value => some value
  | none => ((byLowerName defaults).get? name).join

def choose (given : Dictionary Value) (otherwise : String → Option String)
    (field fallback : String) : Except Issue String :=
  match given.get? field with
  | some value => (Decode.text value).mapError fun fault => ⟨[field], fault⟩
  | none => .ok ((otherwise field).getD fallback)

def issueOf? {α : Type} : Except Issue α → Option Issue
  | .ok _ => none
  | .error issue => some issue

def load (site : Site) (given : Dictionary Value) : Except SettingsError Settings :=
  match variablesAt site defaultsFile with
  | .error fault => .error (.undecodable fault)
  | .ok defaults =>
    let setting := choose given (fromVariables site.environment defaults)
    let envFile := setting "env_file" default.envFile
    let logLevel := setting "log_level" default.logLevel
    let logFile := setting "log_file" default.logFile
    match envFile, logLevel, logFile with
    | .ok envFile, .ok logLevel, .ok logFile => .ok ⟨envFile, logLevel, logFile⟩
    | _, _, _ => .error (.invalid ([envFile, logLevel, logFile].filterMap issueOf?))

/-- The properties of the application: those of the file, then the environment over them. -/
def properties (settings : Settings) (site : Site) :
    Except Text.ByteFault (Dictionary String) :=
  if settings.envFile.isEmpty then .ok (Dictionary.merge [] site.environment)
  else
    (variablesAt site settings.envFile).map fun defined =>
      (EnvFile.values defined).merge site.environment

end Settings

end ClientWiring
