import RightsStore.Event
import RightsStore.Settings

namespace RightsStore

open Text

inductive LogName
  | level (n : Int)
  | pattern (text : String)
  | styles
  deriving DecidableEq, Repr

inductive LogFault
  | notText (f : NotText)
  | unknownLevel (text : String)
  | notLevel
  deriving DecidableEq, Repr

def LogFault.message : LogFault → String
  | .notText f => f.message
  | .unknownLevel text => "Unknown level: " ++ .ofList (quoted text.toList)
  | .notLevel => "Level not an integer or a valid string: \x7b" ++
      "'%': (<class 'logging.PercentStyle'>, '%(levelname)s:%(name)s:%(message)s'), " ++
      "'\x7b': (<class 'logging.StrFormatStyle'>, " ++
      "'\x7blevelname\x7d:\x7bname\x7d:\x7bmessage\x7d'), " ++
      "'$': (<class 'logging.StringTemplateStyle'>, " ++
      "'$\x7blevelname\x7d:$\x7bname\x7d:$\x7bmessage\x7d')\x7d"

namespace LogName

def known : List (String × LogName) := [
  ("NOTSET", .level 0), ("DEBUG", .level 10), ("INFO", .level 20), ("WARN", .level 30),
  ("WARNING", .level 30), ("ERROR", .level 40), ("CRITICAL", .level 50), ("FATAL", .level 50),
  ("BASIC_FORMAT", .pattern "%(levelname)s:%(name)s:%(message)s"), ("_STYLES", .styles)]

def ofText (name : String) : LogName :=
  (known.lookup (.ofList (upper name.toList))).getD (.level 20)

def toLevel : LogName → Except LogFault Int
  | .level n => .ok n
  | .pattern text => .error (.unknownLevel text)
  | .styles => .error .notLevel

end LogName

/-- The level that a new process logs from: its root logger has no handler yet, so it takes the
level. -/
def logLevel (s : Settings) (given : Datum) : Except LogFault Int := do
  let name ← (given.setting "upper").mapError .notText
  (LogName.ofText (name.getD s.logLevel)).toLevel

def shownAt (level : Int) (log : List Event) : List Event :=
  log.filter fun e => level ≤ e.severity.number

end RightsStore
