import AlertPolicy.Expr.Operator

/-!
Conditions: one comparison between two operands. An operand keeps the text it was written with;
whether a number is in range is decided when the condition is evaluated. A condition can be built
from any operand texts, so its printed form need not be readable.
-/

namespace AlertPolicy.Expr

inductive OperandKind where
  | number
  | variable
  | quoted
  deriving DecidableEq, Repr

def OperandKind.name : OperandKind → String
  | .number => "number"
  | .variable => "variable"
  | .quoted => "string"

/-- For a quoted operand, `text` is what stands between the quotes. -/
structure Operand where
  kind : OperandKind
  text : String
  deriving DecidableEq, Repr

namespace Operand

def reference? (o : Operand) : Option String :=
  match o.kind with
  | .variable => some o.text
  | _ => none

/-- The operand as it stands in an expression. -/
def source (o : Operand) : String :=
  match o.kind with
  | .quoted => "\"" ++ o.text ++ "\""
  | _ => o.text

end Operand

structure Condition where
  left : Operand
  operator : Operator
  right : Operand
  deriving DecidableEq, Repr

/-- The condition with one space on each side of the operator. -/
def Condition.source (c : Condition) : String :=
  c.left.source ++ " " ++ c.operator.text ++ " " ++ c.right.source

end AlertPolicy.Expr
