import Tabstave.Document.Outcome
import Tabstave.Settings.LogLevel

/-!
# The state of a run

A run of the program prints text, writes messages to a log, and changes files. A `Session` is how
far it has come: the files as they are now, the readings of the clock that are still to come, the
level below which messages are left out, and what has been printed and logged.
-/

namespace Tabstave.Cli

/-- How far a run has come. -/
structure Session where
  store : Store
  clock : Document.Clock
  /-- The rank below which messages are left out. -/
  threshold : Nat := 0
  printed : List Char := []
  /-- The lines of the log. -/
  logged : List (List Char) := []

namespace Session

/-- Print text. -/
def print (session : Session) (text : List Char) : Session :=
  { session with printed := session.printed ++ text }

/-- Print a line. -/
def printLine (session : Session) (text : List Char) : Session :=
  session.print (text ++ ['\n'])

/-- The name under which the program logs. -/
def loggerName : String :=
  "main"

/-- Log a message, if its level is high enough. -/
def log (session : Session) (level : LogLevel) (message : String) : Session :=
  if session.threshold ≤ level.rank then
    let line := loggerName ++ " - " ++ level.name ++ " - " ++ message
    { session with logged := session.logged ++ Text.splitFeeds line.toList }
  else session

/-- Logging leaves the files as they are. -/
@[simp] theorem store_log (session : Session) (level : LogLevel) (message : String) :
    (session.log level message).store = session.store := by
  unfold log
  split <;> rfl

/-- Logging prints nothing. -/
@[simp] theorem printed_log (session : Session) (level : LogLevel) (message : String) :
    (session.log level message).printed = session.printed := by
  unfold log
  split <;> rfl

/-- Printing leaves the files as they are. -/
@[simp] theorem store_print (session : Session) (text : List Char) :
    (session.print text).store = session.store :=
  rfl

end Session

end Tabstave.Cli
