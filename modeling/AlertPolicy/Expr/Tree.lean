import AlertPolicy.Expr.Condition
import AlertPolicy.Text.Bytes

/-!
Parse trees of expressions. The type fixes the shape that the grammar allows, so a tree always
holds two operands and one operator. Its nodes are the spans that were matched; `tokens` lists them
in the order in which they begin, each before the spans inside it.
-/

namespace AlertPolicy.Expr

open AlertPolicy.Text

/-- What a span of an expression, or an error in one, can be an instance of. -/
inductive Production where
  | root
  | expression
  | condition
  | symbol
  | number
  | variable
  | string
  | stringText
  | operator
  | sign (op : Operator)
  | endOfInput
  deriving DecidableEq, Repr

namespace Production

def name : Production → String
  | .root => "root"
  | .expression => "expression"
  | .condition => "condition"
  | .symbol => "symbol"
  | .number => "number"
  | .variable => "variable"
  | .string => "string"
  | .stringText => "string text"
  | .operator => "operator"
  | .sign op => "'" ++ op.text ++ "'"
  | .endOfInput => "end of input"

def operator? : Production → Option Operator
  | .sign op => some op
  | _ => none

end Production

/-- A stretch of the expression: the byte offset at which it begins, and its characters. -/
structure Span where
  start : Nat
  chars : List Char
  deriving DecidableEq, Repr

namespace Span

def stop (s : Span) : Nat := s.start + byteLength s.chars

def text (s : Span) : String := String.ofList s.chars

end Span

structure Token where
  production : Production
  span : Span
  deriving DecidableEq, Repr

/-- A token and the nodes of the spans inside its own, in the order in which they begin. -/
inductive Node where
  | mk (token : Token) (children : List Node)
  deriving Repr

namespace Node

def token : Node → Token
  | mk token _ => token

def span (n : Node) : Span := n.token.span

mutual

/-- The tokens of a node, each before those inside its span. -/
def tokens : Node → List Token
  | mk token children => token :: tokensOf children

def tokensOf : List Node → List Token
  | [] => []
  | n :: ns => n.tokens ++ tokensOf ns

end

end Node

/-- An operand as it was matched. The span of a string holds the quotes and the blanks after the
closing one; its content is what stands between the quotes. -/
inductive OperandTree where
  | number (span : Span)
  | variable (span : Span)
  | string (span content : Span)
  deriving DecidableEq, Repr

namespace OperandTree

def node : OperandTree → Node
  | .number span => .mk ⟨.number, span⟩ []
  | .variable span => .mk ⟨.variable, span⟩ []
  | .string span content => .mk ⟨.string, span⟩ [.mk ⟨.stringText, content⟩ []]

def operand : OperandTree → Operand
  | .number span => ⟨.number, span.text⟩
  | .variable span => ⟨.variable, span.text⟩
  | .string _ content => ⟨.quoted, content.text⟩

end OperandTree

/-- An operand with the blanks after it. -/
structure SymbolTree where
  span : Span
  operand : OperandTree
  deriving DecidableEq, Repr

def SymbolTree.node (t : SymbolTree) : Node := .mk ⟨.symbol, t.span⟩ [t.operand.node]

/-- An operator with the blanks after it. -/
structure OperatorTree where
  span : Span
  sign : Span
  operator : Operator
  deriving DecidableEq, Repr

def OperatorTree.node (t : OperatorTree) : Node :=
  .mk ⟨.operator, t.span⟩ [.mk ⟨.sign t.operator, t.sign⟩ []]

/-- A whole expression. `root` spans all of the text and `condition` all but the blanks in front,
which is also the span of the production `expression`. -/
structure ParseTree where
  root : Span
  condition : Span
  left : SymbolTree
  operator : OperatorTree
  right : SymbolTree
  deriving DecidableEq, Repr

namespace ParseTree

def node (t : ParseTree) : Node :=
  .mk ⟨.root, t.root⟩ [.mk ⟨.expression, t.condition⟩ [.mk ⟨.condition, t.condition⟩
    [t.left.node, t.operator.node, t.right.node]]]

def tokens (t : ParseTree) : List Token := t.node.tokens

end ParseTree

end AlertPolicy.Expr
