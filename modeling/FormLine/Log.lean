import FormLine.Json.Display
import FormLine.Text.Quoted
/-!
# Log lines

A log line has a level, the name of the logger that writes it, and a message. A threshold decides
which lines are written: those whose level is not below it.
-/

namespace FormLine

/-- How grave a log line is. -/
inductive LogLevel where
  | debug
  | info
  | error
  deriving DecidableEq, Repr

/-- The rank of the level. -/
def LogLevel.rank : LogLevel → Int
  | debug => 10
  | info => 20
  | error => 40

/-- The level as it is written. -/
def LogLevel.name : LogLevel → String
  | debug => "DEBUG"
  | info => "INFO"
  | error => "ERROR"

/-- A line of a log. -/
structure LogLine where
  level : LogLevel
  logger : String
  message : String
  deriving DecidableEq, Repr

/-- The written form of a line. -/
def LogLine.text (l : LogLine) : String :=
  l.level.name ++ ":" ++ l.logger ++ ":" ++ l.message ++ "\n"

/-- The written form of the lines that are not below a threshold. -/
def writeLog (threshold : Int) (lines : List LogLine) : String :=
  String.join ((lines.filter fun l => threshold ≤ l.level.rank).map LogLine.text)

/-- The ranks that have names. -/
def rankNames : List (String × Int) :=
  [("CRITICAL", 50), ("FATAL", 50), ("ERROR", 40), ("WARN", 30), ("WARNING", 30), ("INFO", 20),
    ("DEBUG", 10), ("NOTSET", 0)]

/-- The threshold where none is set. -/
def defaultThreshold : Int := 30

/-- The names of a list of texts, as messages show them. -/
def shownTexts (names : List String) : String := (Json.texts names).shown

end FormLine
