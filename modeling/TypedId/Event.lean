/-
What is told to whoever keeps the log.
-/

namespace TypedId

inductive Level where
  | debug
  | warn
deriving DecidableEq, Repr

def Level.name : Level → String
  | .debug => "DEBUG"
  | .warn => "WARN"

structure Event where
  level : Level
  message : String
  /-- Further values under their names. -/
  fields : List (String × String)
deriving DecidableEq, Repr

end TypedId
