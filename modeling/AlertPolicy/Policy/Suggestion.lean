import AlertPolicy.Evaluation
import AlertPolicy.Store.Variable
import AlertPolicy.Text.EditDistance

/-!
Replacements for expressions that are almost right: a threshold that was put between quotes, and a
variable the last segment of which is close to the name of a field. Either is proposed only if it
mends the expression.
-/

namespace AlertPolicy.Policy

open AlertPolicy.Expr Store

/-- The condition with a quoted threshold unquoted. -/
def unquoted (c : Condition) : Condition :=
  { c with right := ⟨.number, Text.trim c.right.text⟩ }

/-- The source of the condition with its threshold unquoted, if that has a threshold. -/
def unquotedThreshold? (c : Condition) : Option String :=
  match c.right.kind with
  | .quoted =>
      let mended := (unquoted c).source
      match Condition.parse mended with
      | .ok read =>
          match read.threshold with
          | .ok _ => some mended
          | .error _ => none
      | .error _ => none
  | _ => none

/-- The distance between two names, their ASCII letters taken in lower case. -/
def nameDistance (a b : String) : Nat :=
  Text.editDistance (a.toList.map Char.toLower) (b.toList.map Char.toLower)

/-- The candidate nearest to the input, the first of those that are equally near. -/
def nearest? (input : String) : List String → Option String
  | [] => none
  | x :: xs =>
      some (xs.foldl (fun best y =>
        if nameDistance input y < nameDistance input best then y else best) x)

/-- The nearest candidate, if it differs in no more than half of the longer name. -/
def closeMatch? (input : String) (candidates : List String) : Option String :=
  (nearest? input candidates).filter fun best =>
    nameDistance input best ≤ max input.utf8ByteSize best.utf8ByteSize / 2

def lastSegment (v : String) : List Char := (v.toList.splitOn '.').getLastD []

/-- The variable with its last segment replaced. -/
def withLastSegment (v name : String) : String :=
  String.ofList (v.toList.take (v.toList.length - (lastSegment v).length)) ++ name

/-- The variable with the nearest field name as its last segment, if that is another variable and
one that can be resolved. -/
def mendedVariable? (v : String) : Option String :=
  let last := String.ofList (lastSegment v)
  match closeMatch? last [Field.received.name, Field.sent.name] with
  | some field =>
      if last != field then
        let mended := withLastSegment v field
        match VariableRef.parse mended with
        | .ok _ => some mended
        | .error _ => none
      else none
  | none => none

end AlertPolicy.Policy
