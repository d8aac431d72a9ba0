/-!
Variables of expressions as references to samples: `vm`, then a machine and one of its interfaces
if the reference is that narrow, then the field to read. Segments are parted by points, a last
segment `rx` or `tx` is always the field, and without one the received amount is read.
-/

namespace AlertPolicy.Store

inductive StoreError where
  | server
  | invalidVariable (text : String)
  deriving DecidableEq, Repr

def StoreError.message : StoreError → String
  | .server => "Redis error"
  | .invalidVariable text => "Invalid variable reference '" ++ text ++ "'"

/-- Which value of a sample is read. -/
inductive Field where
  | received
  | sent
  deriving DecidableEq, Repr

namespace Field

def name : Field → String
  | received => "rx"
  | sent => "tx"

/-- The place of the value after the time stamp of a sample. -/
def position : Field → Nat
  | received => 0
  | sent => 1

end Field

/-- How much a reference takes in. -/
inductive Scope where
  | everything
  | resource (name : String)
  | interface (resource name : String)
  deriving DecidableEq, Repr

namespace Scope

def resource? : Scope → Option String
  | everything => none
  | resource r => some r
  | interface r _ => some r

def interface? : Scope → Option String
  | interface _ i => some i
  | _ => none

/-- At most two segments, none of them empty. -/
def ofSegments? : List (List Char) → Option Scope
  | [] => some everything
  | [r] => if r.isEmpty then none else some (resource (String.ofList r))
  | [r, i] =>
      if r.isEmpty || i.isEmpty then none
      else some (interface (String.ofList r) (String.ofList i))
  | _ => none

end Scope

structure VariableRef where
  scope : Scope
  field : Field
  deriving DecidableEq, Repr

namespace VariableRef

/-- The field named by the last segment, and the segments before it. -/
def splitField (segments : List (List Char)) : List (List Char) × Field :=
  match segments.getLast? with
  | some ['r', 'x'] => (segments.dropLast, .received)
  | some ['t', 'x'] => (segments.dropLast, .sent)
  | _ => (segments, .received)

def parse (s : String) : Except StoreError VariableRef :=
  match s.toList.splitOn '.' with
  | ['v', 'm'] :: segments =>
      let (scope, field) := splitField segments
      match Scope.ofSegments? scope with
      | some scope => .ok ⟨scope, field⟩
      | none => .error (.invalidVariable s)
  | _ => .error (.invalidVariable s)

/-- The reference with its field written out. -/
def source (v : VariableRef) : String :=
  match v.scope with
  | .everything => "vm." ++ v.field.name
  | .resource r => "vm." ++ r ++ "." ++ v.field.name
  | .interface r i => "vm." ++ r ++ "." ++ i ++ "." ++ v.field.name

end VariableRef

end AlertPolicy.Store
