/-!
Log events. An event has a fixed message and says everything that varies in named fields; what
events there are is said where they arise.
-/

namespace AlertPolicy

inductive LogLevel where
  | debug
  | info
  | warn
  deriving DecidableEq, Repr

def LogLevel.name : LogLevel → String
  | .debug => "DEBUG"
  | .info => "INFO"
  | .warn => "WARN"

structure LogEvent where
  level : LogLevel
  message : String
  fields : List (String × String)
  deriving DecidableEq, Repr

end AlertPolicy
