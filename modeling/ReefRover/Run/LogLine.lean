import ReefRover.Text.Lines
import ReefRover.Text.Plain

/-!
This module contains the lines of the log: how grave a line is, where it comes from, and how it is
written.
-/

namespace ReefRover

inductive Level where
  | error
  | warn
  | info
  | debug
  | trace
deriving DecidableEq, Repr

namespace Level

def name : Level → String
  | error => "ERROR"
  | warn => "WARN"
  | info => "INFO"
  | debug => "DEBUG"
  | trace => "TRACE"

/-- Graver levels have smaller ranks. -/
def rank : Level → Nat
  | error => 1
  | warn => 2
  | info => 3
  | debug => 4
  | trace => 5

def ofName? (name : String) : Option Level :=
  match name.toLower with
  | "error" => some error
  | "warn" => some warn
  | "info" => some info
  | "debug" => some debug
  | "trace" => some trace
  | _ => none

end Level

inductive LogSource where
  | program
  | headless
  | controller
  | ocean
  | blocks
deriving DecidableEq, Repr

namespace LogSource

def name : LogSource → String
  | program => "ocean_bot"
  | headless => "ocean_bot::headless"
  | controller => "ocean_bot::sim::controller"
  | ocean => "ocean_bot::sim::tick"
  | blocks => "ocean_bot::sim::interpreter"

end LogSource

/-- A line of the log. Its text may have line breaks. -/
structure LogLine where
  level : Level
  source : LogSource
  text : String
deriving DecidableEq, Repr

namespace LogLine

def render (line : LogLine) : String :=
  line.level.name ++ " " ++ line.text

/--
The line as it is written to a log without colours: the lines of its text are indented after the
first one, and nothing is left of it that would control a terminal.
-/
def written (line : LogLine) : String :=
  Text.plain (line.level.name ++ " " ++ Text.indented 4 line.text ++ "\n")

end LogLine

end ReefRover
