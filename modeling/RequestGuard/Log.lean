/-!
# Log lines

What the engine tells about its work besides its answers.
-/

namespace RequestGuard

/-- How much a log line matters. -/
inductive Level where
  | error
  | warn
  | info
  deriving DecidableEq, Repr

/-- The name of a level. -/
def Level.name : Level → String
  | .error => "error"
  | .warn => "warn"
  | .info => "info"

/-- A line of the log. -/
structure LogLine where
  /-- How much the line matters. -/
  level : Level
  /-- What the line says. -/
  text : String
  deriving DecidableEq, Repr

end RequestGuard
