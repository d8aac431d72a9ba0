import AlertPolicy.Expr.Error

/-!
The grammar of expressions. Alternatives are tried in order, and the first that matches is kept:

    expression  :=  blanks condition
    condition   :=  operand blanks operator blanks operand blanks
    operand     :=  number | '"' content '"' | identifier
    number      :=  '-'? digit+ ('.' digit+)?

An alternative that fails is given up as a whole and the next one begins where it began. The
farthest place that any of them failed at is remembered; it is what an error points at.
-/

namespace AlertPolicy.Expr

open AlertPolicy.Text

/-- Spaces and tabs; other white space is not allowed outside of quotes. -/
def isGap (c : Char) : Bool := c == ' ' || c == '\t'

def isIdentifier (c : Char) : Bool := c.isAlphanum || c == '_' || c == '.' || c == '-'

/-- The characters a quoted operand may hold. -/
def isQuotable (c : Char) : Bool := c != '"' && c != '\n' && c != '\\'

/-- The rest of an expression and the byte offset at which it begins. -/
structure Cursor where
  offset : Nat
  rest : List Char
  deriving DecidableEq, Repr

namespace Cursor

/-- Past the character, if it is the next one. -/
def skip? (x : Char) (c : Cursor) : Option Cursor :=
  match c.rest with
  | y :: r => if y = x then some ⟨c.offset + y.utf8Size, r⟩ else none
  | [] => none

/-- Past all characters up to the first that does not satisfy `p`. -/
def skipWhile (p : Char → Bool) (c : Cursor) : Cursor :=
  ⟨c.offset + byteLength (c.rest.takeWhile p), c.rest.dropWhile p⟩

def skipGap (c : Cursor) : Cursor := c.skipWhile isGap

/-- Past the sign of a number, if it has one. -/
def skipSign (c : Cursor) : Cursor := (c.skip? '-').getD c

/-- Past a point and the digits after it. A point that no digit follows is given back. -/
def skipFraction (c : Cursor) : Cursor :=
  match c.skip? '.' with
  | some point =>
      let fraction := point.skipWhile Char.isDigit
      if fraction.offset = point.offset then c else fraction
  | none => c

/-- The stretch from here up to a later cursor. -/
def spanTo (c stop : Cursor) : Span :=
  ⟨c.offset, c.rest.take (c.rest.length - stop.rest.length)⟩

end Cursor

/-- A place where something was expected in vain. -/
structure Obstacle where
  cursor : Cursor
  expected : Production
  deriving DecidableEq, Repr

namespace Obstacle

/-- The farther of the obstacle known so far and a new one; the new one if they are at one place,
since the rule that expected it is the outer one. -/
def farthest (known : Option Obstacle) (new : Obstacle) : Obstacle :=
  match known with
  | some o => if new.cursor.offset < o.cursor.offset then o else new
  | none => new

def error (o : Obstacle) : ParseError := ⟨o.cursor.offset, o.expected, o.cursor.rest.head?⟩

end Obstacle

/-- An attempt to read something. The farthest obstacle stays known when the attempt fails. -/
abbrev Attempt := OptionT (StateM (Option Obstacle))

/-- What comes of an attempt, and the farthest obstacle that is known after it. -/
def Attempt.runFrom {α : Type} (a : Attempt α) (known : Option Obstacle) :
    Option α × Option Obstacle :=
  a.run.run known

/-- Fails for want of what was expected at the cursor. -/
def missing {α : Type} (expected : Production) (c : Cursor) : Attempt α := do
  modify fun known => some (Obstacle.farthest known ⟨c, expected⟩)
  failure

def readNumber (c : Cursor) : Attempt (OperandTree × Cursor) :=
  let signed := c.skipSign
  let whole := signed.skipWhile Char.isDigit
  if whole.offset = signed.offset then missing .number signed
  else
    let stop := whole.skipFraction
    return (.number (c.spanTo stop), stop)

def readString (c : Cursor) : Attempt (OperandTree × Cursor) :=
  match c.skip? '"' with
  | none => missing .string c
  | some inside =>
      let content := inside.skipWhile isQuotable
      match content.skip? '"' with
      | none => missing .string content
      | some closed =>
          let stop := closed.skipGap
          return (.string (c.spanTo stop) (inside.spanTo content), stop)

def readVariable (c : Cursor) : Attempt (OperandTree × Cursor) :=
  let stop := c.skipWhile isIdentifier
  if stop.offset = c.offset then missing .variable c
  else return (.variable (c.spanTo stop), stop)

def readOperand (c : Cursor) : Attempt (OperandTree × Cursor) :=
  readNumber c <|> readString c <|> readVariable c <|> missing .symbol c

/-- An operand with the blanks after it. -/
def readSymbol (c : Cursor) : Attempt (SymbolTree × Cursor) := do
  let (operand, stop) ← readOperand c
  let stop := stop.skipGap
  return (⟨c.spanTo stop, operand⟩, stop)

/-- An operator with the blanks after it. -/
def readOperator (c : Cursor) : Attempt (OperatorTree × Cursor) :=
  match Operator.read? c.rest with
  | none => missing .operator c
  | some (op, rest) =>
      let sign : Cursor := ⟨c.offset + byteLength op.chars, rest⟩
      let stop := sign.skipGap
      return (⟨c.spanTo stop, c.spanTo sign, op⟩, stop)

/-- The two operands and the operator between them. -/
def readParts (c : Cursor) : Attempt ((SymbolTree × OperatorTree × SymbolTree) × Cursor) := do
  let (left, c) ← readSymbol c
  let (op, c) ← readOperator c
  let (right, c) ← readSymbol c
  return ((left, op, right), c)

def readCondition (c : Cursor) : Attempt ((SymbolTree × OperatorTree × SymbolTree) × Cursor) :=
  readParts c <|> missing .condition c

/-- A condition that is all of the text. -/
def readRoot (start : Cursor) : Attempt ParseTree := do
  let first := start.skipGap
  let ((left, op, right), stop) ← readCondition first
  if stop.rest.isEmpty then return ⟨start.spanTo stop, first.spanTo stop, left, op, right⟩
  else missing .endOfInput stop

/-- The tree of a text that is one whole expression. -/
def ParseTree.parse (s : String) : Except ParseError ParseTree :=
  let start : Cursor := ⟨0, s.toList⟩
  match (readRoot start).runFrom none with
  | (some tree, _) => .ok tree
  | (none, known) => .error (known.getD ⟨start, .root⟩).error

end AlertPolicy.Expr
