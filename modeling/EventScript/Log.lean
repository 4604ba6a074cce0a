/-!
What the engine reports to whoever runs it.
-/

namespace EventScript

inductive Level where
  | trace
  | debug
  | info
  | warn
  deriving DecidableEq, Repr

def Level.name : Level → String
  | .trace => "TRACE"
  | .debug => "DEBUG"
  | .info => "INFO"
  | .warn => "WARN"

structure LogEntry where
  level : Level
  message : String
  deriving DecidableEq, Repr

abbrev Log := Array LogEntry

namespace Log

def add (log : Log) (level : Level) (message : String) : Log := log.push ⟨level, message⟩

end Log

end EventScript
