import AlertPolicy.Expr.Error

/-!
Assembly of a condition from parts given one after the other. The first two operands and the first
operator are kept; a part that comes too late is refused and leaves the builder as it was.
-/

namespace AlertPolicy.Expr

inductive OperandSlots where
  | none
  | one (left : Operand)
  | both (left right : Operand)
  deriving DecidableEq, Repr

structure Builder where
  operands : OperandSlots
  operator : Option Operator
  deriving DecidableEq, Repr

/-- What can be given to a builder. -/
inductive Part where
  | operand (o : Operand)
  | operator (op : Operator)
  deriving DecidableEq, Repr

/-- A call on a builder. It is taken or refused, and leaves a builder in both cases. -/
abbrev BuilderCall := ExceptT AssemblyError (StateM Builder)

namespace BuilderCall

/-- The operands, moved out of the builder: its slots are empty until some are put back. -/
def takeOperands : BuilderCall OperandSlots :=
  modifyGet fun b => (b.operands, { b with operands := .none })

def putOperands (slots : OperandSlots) : BuilderCall Unit :=
  modify fun b => { b with operands := slots }

def addOperand (o : Operand) : BuilderCall Unit := do
  match ← takeOperands with
  | .none => putOperands (.one o)
  | .one left => putOperands (.both left o)
  | .both left right =>
      putOperands (.both left right)
      throw (.tooManyOperands o)

def addOperator (op : Operator) : BuilderCall Unit := do
  match (← get).operator with
  | none => modify fun b => { b with operator := some op }
  | some kept => throw (.duplicateOperator kept op)

def add : Part → BuilderCall Unit
  | .operand o => addOperand o
  | .operator op => addOperator op

end BuilderCall

namespace Builder

def empty : Builder := ⟨.none, none⟩

/-- What the builder answers when a part is given to it. -/
def answer (b : Builder) (part : Part) : Except AssemblyError Unit :=
  (ExceptT.run (BuilderCall.add part) b).1

/-- The builder after a part was offered, whether it was taken or refused. -/
def offer (b : Builder) (part : Part) : Builder := (ExceptT.run (BuilderCall.add part) b).2

/-- The builder with the part, if it is taken. -/
def add (b : Builder) (part : Part) : Except AssemblyError Builder :=
  (b.answer part).map fun _ => b.offer part

def isComplete (b : Builder) : Bool :=
  match b.operands, b.operator with
  | .both _ _, some _ => true
  | _, _ => false

def finish (b : Builder) : Except AssemblyError Condition :=
  match b.operator, b.operands with
  | none, _ => .error (.incomplete .operator)
  | some op, .both left right => .ok ⟨left, op, right⟩
  | some _, .one _ => .error (.incomplete .rightOperand)
  | some _, .none => .error (.incomplete .operands)

end Builder

/-- The part a token contributes, if it is one of those that carry text of the condition. -/
def Token.part? (t : Token) : Option Part :=
  match t.production with
  | .number => some (.operand ⟨.number, t.span.text⟩)
  | .variable => some (.operand ⟨.variable, t.span.text⟩)
  | .stringText => some (.operand ⟨.quoted, t.span.text⟩)
  | .sign op => some (.operator op)
  | _ => none

/-- The condition the tokens of an expression make up. -/
def Builder.ofTokens (tokens : List Token) : Except AssemblyError Condition := do
  let b ← (tokens.filterMap Token.part?).foldlM Builder.add Builder.empty
  b.finish

end AlertPolicy.Expr
