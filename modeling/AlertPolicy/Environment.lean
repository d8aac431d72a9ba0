/-!
Environment variables. A value is a run of octets; one that is empty or is not UTF-8 counts as if
the variable were not set.
-/

namespace AlertPolicy

abbrev Environment := String → Option ByteArray

namespace Environment

def empty : Environment := fun _ => none

def set (env : Environment) (name value : String) : Environment :=
  fun n => if n = name then some value.toUTF8 else env n

/-- The value of a variable that is UTF-8, empty or not. -/
def text? (env : Environment) (name : String) : Option String :=
  (env name).bind String.fromUTF8?

def value? (env : Environment) (name : String) : Option String :=
  (env.text? name).filter (!·.isEmpty)

end Environment

end AlertPolicy
