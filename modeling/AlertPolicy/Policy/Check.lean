import AlertPolicy.Policy.Document

/-!
What a document must satisfy before it can be scheduled: every group has a name that is not blank
and no other group before it has, and an interval, if it has one, that is a duration. The first
group that fails is blamed, its name before its interval.
-/

namespace AlertPolicy.Policy

inductive DocumentFault where
  | emptyName (index : Nat)
  | duplicateName (name : String)
  | invalidInterval (name raw : String)
  deriving DecidableEq, Repr

def DocumentFault.message : DocumentFault → String
  | .emptyName index => "groups[" ++ toString index ++ "].name must not be empty"
  | .duplicateName name => "duplicate group name '" ++ name ++ "'"
  | .invalidInterval name raw => "group '" ++ name ++ "': invalid interval '" ++ raw ++ "'"

/-- The first fault of the groups from `index` on, the names before them being `seen`. -/
def firstFault? (seen : List String) (index : Nat) : List Group → Option DocumentFault
  | [] => none
  | g :: gs =>
      if Text.isBlankText g.name then some (.emptyName index)
      else if seen.contains g.name then some (.duplicateName g.name)
      else
        match g.period with
        | .error raw => some (.invalidInterval g.name raw)
        | .ok _ => firstFault? (g.name :: seen) (index + 1) gs

def Document.fault? (d : Document) : Option DocumentFault := firstFault? [] 0 d.groups

end AlertPolicy.Policy
