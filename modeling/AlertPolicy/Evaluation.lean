import AlertPolicy.Expr.Parse
import AlertPolicy.Sample.Series

/-!
Evaluation of a condition over sample series. The right side must be a number literal with a
finite value, the threshold; a series matches if any of its samples satisfies the comparison. A
NaN sample satisfies none, so a series without other samples never matches.
-/

namespace AlertPolicy

open AlertPolicy.Expr Number Sample

namespace Expr

/-- The comparison of two numbers that an operator stands for. -/
def Operator.holds : Operator → Binary64 → Binary64 → Bool
  | .equal, x, y => x.equals y
  | .notEqual, x, y => !x.equals y
  | .lessOrEqual, x, y => x.atMost y
  | .greaterOrEqual, x, y => y.atMost x
  | .less, x, y => x.lessThan y
  | .greater, x, y => y.lessThan x

/-- Whether a sample that is not NaN compares to the threshold as the operator says. -/
def Operator.matches (op : Operator) (threshold : Binary64) (values : List Binary64) : Bool :=
  values.any fun v => !v.isNaN && op.holds v threshold

/-- The number on the right side. -/
def Condition.threshold (c : Condition) : Except ThresholdError Binary64 :=
  match c.right.kind with
  | .number =>
      match Binary64.ofText? c.right.text with
      | some v => if v.isFinite then .ok v else .error (.invalidNumber c.right.text)
      | none => .error (.invalidNumber c.right.text)
  | _ => .error (.notNumeric c.right)

/-- The labels of the series that match. -/
def Condition.evaluate (c : Condition) (series : List Series) :
    Except ThresholdError (OrderedSet Label) :=
  c.threshold.map fun t =>
    OrderedSet.ofList
      ((series.filter fun s => c.operator.matches t s.values).map Series.label)

end Expr

end AlertPolicy
