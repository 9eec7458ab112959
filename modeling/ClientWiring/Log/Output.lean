import ClientWiring.Config.Settings
import ClientWiring.Log.Record
import ClientWiring.Text.Quoted
set_option autoImplicit false

/-! Where the library logs to, and from which level on. Records are written to the standard output
and, if a file is set, to that file too. -/

namespace ClientWiring

inductive LevelError where
  | text (shown : String)
  | other (shown : String)
  deriving DecidableEq, Repr

namespace LevelError

def message : LevelError → String
  | text shown => "Unknown level: " ++ Text.quoted shown
  | other shown => "Level not an integer or a valid string: " ++ shown

end LevelError

namespace Level

def words : List (String × Level) := [
  ("CRITICAL", critical), ("FATAL", critical), ("ERROR", error), ("WARNING", warning),
  ("WARN", warning), ("INFO", info), ("DEBUG", debug), ("NOTSET", notSet)]

def reserved : List (String × LevelError) := [
  ("BASIC_FORMAT", .text "%(levelname)s:%(name)s:%(message)s"),
  ("_STYLES", .other ("\x7b'%': (<class 'logging.PercentStyle'>, " ++
    "'%(levelname)s:%(name)s:%(message)s'), '\x7b': (<class 'logging.StrFormatStyle'>, " ++
    "'\x7blevelname\x7d:\x7bname\x7d:\x7bmessage\x7d'), '$': (<class " ++
    "'logging.StringTemplateStyle'>, '$\x7blevelname\x7d:$\x7bname\x7d:$\x7bmessage\x7d')\x7d"))]

/-- The level that a word names in letters of either case; a word that names nothing stands for the
usual level. -/
def ofWord (word : String) : Except LevelError Level :=
  let word := Text.upperKeyword word
  match reserved.lookup word with
  | some error => .error error
  | none => .ok ((words.lookup word).getD info)

/-- The level that a logger of this level logs from; one without a level of its own takes the level
above it. -/
def effective (level : Level) : Level :=
  if level.number = notSet.number then warning else level

end Level

structure LogOutput where
  level : Level
  file : Option String
  deriving DecidableEq, Repr, Inhabited

namespace LogOutput

def ofSettings (settings : Settings) : Except LevelError LogOutput :=
  (Level.ofWord settings.logLevel).map fun level =>
    ⟨level, if settings.logFile.isEmpty then none else some settings.logFile⟩

def accepts (output : LogOutput) (level : Level) : Bool :=
  output.level.effective.number ≤ level.number

def written (output : LogOutput) (records : List LogRecord) : List LogRecord :=
  records.filter fun record => output.accepts record.level

end LogOutput

end ClientWiring
