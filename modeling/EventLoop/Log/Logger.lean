import EventLoop.Environment
import EventLoop.Log.Level

/-! # The logger

    The logger reads its settings from the environment once, before it first needs them, and
    writes one line per message. A level that the program sets wins over the environment;
    the settings are read first, so that the environment cannot undo it later. -/

namespace EventLoop.Log

/-- A logger and everything it has written. -/
structure Logger where
  /-- Where the settings come from. -/
  environment : Environment
  /-- The settings have been read. -/
  initialised : Bool
  level : Level
  /-- Each line is flushed on its own. -/
  flushes : Bool
  /-- What was written so far. -/
  written : String
  deriving DecidableEq, Repr, Inhabited

namespace Logger

/-- A logger before its first use: level info, nothing flushed, nothing written. -/
def initial (env : Environment) : Logger := ⟨env, false, .info, false, ""⟩

/-- A logger whose level was set by the program. -/
def withLevel (level : Level) : Logger := ⟨Environment.empty, true, level, false, ""⟩

/-- Read the settings, once. A level that does not read counts as info. -/
def init (l : Logger) : Logger :=
  if l.initialised then l
  else { l with
    initialised := true
    flushes :=
      if l.environment.isSet "PSV_FLUSH_EPRINT" then l.environment.switch "PSV_FLUSH_EPRINT" false
      else l.flushes
    level :=
      match l.environment.word? "PSV_LOG_LEVEL" with
      | some w => (Level.read? w).getD .info
      | none => l.level }

/-- Set the level; the settings are read first. -/
def setLevel (l : Logger) (level : Level) : Logger := { l.init with level := level }

/-- Set whether lines are flushed. -/
def setFlush (l : Logger) (on : Bool) : Logger := { l with flushes := on }

/-- The level in force. -/
def currentLevel (l : Logger) : Level × Logger := (l.init.level, l.init)

/-- Whether lines are flushed. -/
def flushEnabled (l : Logger) : Bool × Logger := (l.init.flushes, l.init)

/-- Whether a line of the given level would be written; for `off` the settings are not needed. -/
def enabled (l : Logger) (level : Level) : Bool × Logger :=
  if level = .off then (false, l) else (l.init.level.admits level, l.init)

/-- Write a line as it is, whatever the level; the settings are needed for the flush after it. -/
def print (l : Logger) (line : String) : Logger :=
  { l.init with written := l.written ++ line ++ "\n" }

/-- Write a message at a level, if lines of that level are written. -/
def log (l : Logger) (level : Level) (message : String) : Logger :=
  match l.enabled level with
  | (true, l) => l.print (level.label ++ " pollserve: " ++ message)
  | (false, l) => l

/-- Write notes in order. -/
def logAll (l : Logger) (notes : List Note) : Logger :=
  notes.foldl (fun l note => l.log note.level note.message) l

end Logger

end EventLoop.Log
