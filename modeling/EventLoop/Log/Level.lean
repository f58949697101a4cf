import EventLoop.Text.Blank

/-! # Log levels

    Six levels, the most severe first. A level is read from its name in any case, or from
    its number. -/

namespace EventLoop.Log

/-- How much is logged; `off` logs nothing. -/
inductive Level where
  | off
  | error
  | warn
  | info
  | debug
  | trace
  deriving DecidableEq, Repr, Inhabited

namespace Level

/-- The number of a level; lower is more severe. -/
def number : Level → Nat
  | off => 0
  | error => 1
  | warn => 2
  | info => 3
  | debug => 4
  | trace => 5

/-- The level with a number; all numbers past the last level give the last. -/
def numbered : Nat → Level
  | 0 => off
  | 1 => error
  | 2 => warn
  | 3 => info
  | 4 => debug
  | _ => trace

/-- The name of a level. -/
def name : Level → String
  | off => "Off"
  | error => "Error"
  | warn => "Warn"
  | info => "Info"
  | debug => "Debug"
  | trace => "Trace"

/-- The label in front of a line, padded to one width. -/
def label : Level → String
  | off => ""
  | error => "[ERROR]"
  | warn => "[WARN] "
  | info => "[INFO] "
  | debug => "[DEBUG]"
  | trace => "[TRACE]"

/-- Read a level: its name in any case or its number, with blanks around it. -/
def read? (s : String) : Option Level :=
  match String.ofList ((Text.trim s.toList).map Char.toLower) with
  | "off" | "0" => some off
  | "error" | "1" => some error
  | "warn" | "2" => some warn
  | "info" | "3" => some info
  | "debug" | "4" => some debug
  | "trace" | "5" => some trace
  | _ => none

/-- Levels are ordered by their numbers. -/
instance : Ord Level := ⟨fun a b => compare a.number b.number⟩

/-- A line of level `line` is written while `current` is in force. -/
def admits (current line : Level) : Bool := line != off && decide (line.number ≤ current.number)

end Level

/-- A line to be logged: its level and its message. -/
structure Note where
  level : Level
  message : String
  deriving DecidableEq, Repr

end EventLoop.Log
