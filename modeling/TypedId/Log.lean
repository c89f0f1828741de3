/-!
# Log records

What a run reports beside its output: warnings always, details when they are asked for.
-/

set_option autoImplicit false

namespace TypedId

/-- How important a record is. -/
inductive LogLevel where
  | debug
  | warning
  deriving DecidableEq, Repr

/-- The name of a level. -/
def LogLevel.label : LogLevel → String
  | .debug => "DEBUG"
  | .warning => "WARNING"

/-- A level and a message. -/
structure LogRecord where
  level : LogLevel
  message : String
  deriving DecidableEq, Repr

/-- A record of a detail. -/
def LogRecord.debug (message : String) : LogRecord :=
  ⟨.debug, message⟩

/-- A record of something that is likely wrong. -/
def LogRecord.warning (message : String) : LogRecord :=
  ⟨.warning, message⟩

end TypedId
