import Tabstave.Text.Case.Letters
import Tabstave.Value.Same

/-!
# Log levels

Messages have a level, and those below the level that is set are left out. The level is set by its
name, in upper or lower case.
-/

namespace Tabstave

/-- The levels of messages. -/
inductive LogLevel
  | debug
  | info
  | error
  deriving DecidableEq, Repr

/-- The name of a level. -/
def LogLevel.name : LogLevel → String
  | .debug => "DEBUG"
  | .info => "INFO"
  | .error => "ERROR"

/-- How important messages of a level are. -/
def LogLevel.rank : LogLevel → Nat
  | .debug => 10
  | .info => 20
  | .error => 40

namespace LogLevel

/-- The ranks that can be set by name. -/
def ranks : List (String × Nat) :=
  [("DEBUG", 10), ("INFO", 20), ("WARN", 30), ("WARNING", 30), ("ERROR", 40), ("CRITICAL", 50),
    ("FATAL", 50), ("NOTSET", 0)]

/-- A name that stands for the form of messages and not for a level. -/
def formName : String :=
  "BASIC_FORMAT"

/-- The form of messages, which is no level. -/
def form : String :=
  "%(levelname)s:%(name)s:%(message)s"

/-- A name that stands for the styles in which such a form can be written. -/
def stylesName : String :=
  "_STYLES"

/-- The styles, each with its mark and with the form of messages in it, as a message shows them. -/
def styles : String :=
  "\x7b'%': (<class 'logging.PercentStyle'>, '%(levelname)s:%(name)s:%(message)s'), " ++
    "'\x7b': (<class 'logging.StrFormatStyle'>, " ++
    "'\x7blevelname\x7d:\x7bname\x7d:\x7bmessage\x7d'), " ++
    "'$': (<class 'logging.StringTemplateStyle'>, " ++
    "'$\x7blevelname\x7d:$\x7bname\x7d:$\x7bmessage\x7d')\x7d"

/-- The rank that a name in upper case sets. -/
def rankOf (name : String) : Except Fault Nat :=
  match ranks.lookup name with
  | some rank => .ok rank
  | none =>
    if name = formName then .error (.unknownLevel form)
    else if name = stylesName then .error (.levelNotANumber styles)
    else .error (.noLevel name)

/-- Code points in upper case, with those that are of no character as their numbers. -/
def shownInUpperCase (codes : List Nat) : List Char :=
  codes.flatMap fun code ↦ (Text.character? code).elim (Text.escapeHalves [code]) Text.upperChar

/-- The rank that a setting asks for. -/
def threshold (setting : Value) : Except Fault Nat :=
  match setting with
  | .str name => rankOf (String.ofList (Text.upperCase name.toList))
  | .halves codes => .error (.noLevel (String.ofList (shownInUpperCase codes)))
  | .bytes _ => .error (.levelNameType "bytes")
  | v => .error (.noMember v.typeName "upper")

/-- The setting of the level in a configuration. -/
def configured (config : Value) : Except Fault Value := do
  (← config.getText "logging" (.dict [])).getText "level" (.str "INFO")

end LogLevel

end Tabstave
