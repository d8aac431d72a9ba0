import AlertPolicy.OrderedSet
import AlertPolicy.Time.Duration

/-!
Policy documents: groups of rules in the order in which they are written. A document is kept as it
was read, with raw intervals and expressions; whether they can be used is decided elsewhere.
-/

namespace AlertPolicy.Policy

open Time

structure Rule where
  record : String
  expr : String
  deriving DecidableEq

structure Group where
  name : String
  /-- Tags that go into every report of the group. -/
  annotations : OrderedSet String
  interval : Option String
  rules : List Rule
  deriving DecidableEq

/-- The least time between two runs; none is set for a group that runs on every tick. The error
is an interval that is no duration, as it was written. -/
def Group.period (g : Group) : Except String (Option Duration) :=
  match g.interval with
  | none => .ok none
  | some raw =>
      match Duration.parse? raw with
      | some d => .ok (some d)
      | none => .error raw

structure Document where
  groups : List Group
  deriving DecidableEq

namespace Document

def group? (d : Document) (name : String) : Option Group := d.groups.find? (·.name == name)

def ruleCount (d : Document) : Nat := (d.groups.flatMap (·.rules)).length

end Document

end AlertPolicy.Policy
