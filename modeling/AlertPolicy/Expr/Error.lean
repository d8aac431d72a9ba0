import AlertPolicy.Expr.Tree
import AlertPolicy.Text.CharName

/-!
Why an expression cannot be used: its text is not in the grammar, its parts do not make up a
condition, or its right side is no number. Each cause has one wording.
-/

namespace AlertPolicy.Expr

/-- The place where reading got stuck, as a byte offset, and what was being read there. -/
structure ParseError where
  position : Nat
  production : Production
  found : Option Char
  deriving DecidableEq, Repr

def ParseError.message (e : ParseError) : String :=
  let found := match e.found with
    | some c => Text.charName c
    | none => "end of input"
  "parse error near " ++ e.production.name ++ " at position " ++ toString e.position ++
    ": unexpected " ++ found

inductive MissingPart where
  | operator
  | rightOperand
  | operands
  deriving DecidableEq, Repr

def MissingPart.name : MissingPart → String
  | .operator => "missing operator"
  | .rightOperand => "missing right operand"
  | .operands => "missing operands"

inductive AssemblyError where
  | tooManyOperands (operand : Operand)
  | duplicateOperator (kept offered : Operator)
  | incomplete (missing : MissingPart)
  deriving DecidableEq, Repr

def AssemblyError.message : AssemblyError → String
  | .tooManyOperands o =>
      "too many operands: '" ++ o.source ++ "' arrived after both sides were set"
  | .duplicateOperator kept offered =>
      "duplicate operator: '" ++ offered.text ++ "' after '" ++ kept.text ++ "'"
  | .incomplete missing => "incomplete condition: " ++ missing.name

inductive ThresholdError where
  | notNumeric (operand : Operand)
  | invalidNumber (text : String)
  deriving DecidableEq, Repr

def ThresholdError.message : ThresholdError → String
  | .notNumeric o =>
      "right-hand side must be a number, found " ++ o.kind.name ++ " '" ++ o.text ++ "'"
  | .invalidNumber text => "'" ++ text ++ "' is not a valid number"

inductive ExprError where
  | parse (e : ParseError)
  | assembly (e : AssemblyError)
  | threshold (e : ThresholdError)
  deriving DecidableEq, Repr

def ExprError.message : ExprError → String
  | .parse e => e.message
  | .assembly e => e.message
  | .threshold e => e.message

end AlertPolicy.Expr
