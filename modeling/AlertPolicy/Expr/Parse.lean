import AlertPolicy.Expr.Builder
import AlertPolicy.Expr.Grammar

/-!
From the text of an expression to the condition it spells.
-/

namespace AlertPolicy.Expr

def Condition.parse (s : String) : Except ExprError Condition :=
  match ParseTree.parse s with
  | .error e => .error (.parse e)
  | .ok tree =>
      match Builder.ofTokens tree.tokens with
      | .error e => .error (.assembly e)
      | .ok c => .ok c

end AlertPolicy.Expr
