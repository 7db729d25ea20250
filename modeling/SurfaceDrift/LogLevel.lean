/-!
# Levels of logging

How much is logged, by how often the user asks for more.
-/

namespace SurfaceDrift

/-- From the least to the most that is logged. -/
inductive LogLevel where
  | warn
  | info
  | debug
  | trace
deriving DecidableEq, Repr

namespace LogLevel

/-- The level after asking `verbosity` times for more. -/
def ofVerbosity : Nat → LogLevel
  | 0 => warn
  | 1 => info
  | 2 => debug
  | _ => trace

/-- The name of a level. -/
def label : LogLevel → String
  | warn => "warn"
  | info => "info"
  | debug => "debug"
  | trace => "trace"

end LogLevel

end SurfaceDrift
