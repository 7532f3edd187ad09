import Storefront.Json.Value

/-!
# Log lines

What the service tells its operators: a level, a message that is the same each time, and fields
that say which one it was about.
-/

namespace Storefront

/-- How much a line matters. -/
inductive LogLevel where
  | debug
  | info
  | warn
  | error
  deriving DecidableEq

/-- The name of a level. -/
def LogLevel.name : LogLevel → String
  | .debug => "DEBUG"
  | .info => "INFO"
  | .warn => "WARN"
  | .error => "ERROR"

/-- One line of the log. -/
structure LogLine where
  level : LogLevel
  message : String
  fields : List (String × String)
  deriving DecidableEq

/-- Level, message, and fields. -/
def LogLine.toJson (l : LogLine) : Json :=
  .arr [.str l.level.name, .str l.message, .obj (l.fields.map fun f ↦ (f.1, .str f.2))]

end Storefront
