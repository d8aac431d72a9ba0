import AlertPolicy.Number.Natural
import AlertPolicy.Proofs.Expr.Cursor

/-!
The texts that spell a condition, said without reading them. A condition can be spelled if both its
operands are what their kinds promise; its spellings differ in their blanks only. The parse tree of
a spelling is given by the lengths of its pieces.
-/

namespace AlertPolicy.Expr

open AlertPolicy.Number AlertPolicy.Text

/-- Digits, perhaps a minus sign before them, and perhaps a point and more digits after them. -/
def IsNumeral (cs : List Char) : Prop :=
  ∃ sign whole fraction, cs = sign ++ (whole ++ fraction) ∧ (sign = [] ∨ sign = ['-']) ∧
    isDigits whole ∧ (fraction = [] ∨ ∃ ds, isDigits ds ∧ fraction = '.' :: ds)

/-- The text begins neither with a digit nor with a minus sign and a digit. -/
def BeginsNoNumber (cs : List Char) : Prop :=
  Stops Char.isDigit cs ∧ ∀ r, cs = '-' :: r → Stops Char.isDigit r

def IsWord (cs : List Char) : Prop :=
  cs ≠ [] ∧ (∀ c ∈ cs, isIdentifier c) ∧ BeginsNoNumber cs

/-- The text can stand between quotes. -/
def IsContent (cs : List Char) : Prop := '"' ∉ cs ∧ '\\' ∉ cs ∧ '\n' ∉ cs

theorem isContent_iff {cs : List Char} : IsContent cs ↔ ∀ c ∈ cs, isQuotable c = true := by
  constructor
  · rintro ⟨hquote, hslash, hbreak⟩ c hc
    have h1 : c ≠ '"' := fun h => hquote (h ▸ hc)
    have h2 : c ≠ '\\' := fun h => hslash (h ▸ hc)
    have h3 : c ≠ '\n' := fun h => hbreak (h ▸ hc)
    simp [isQuotable, h1, h2, h3]
  · intro h
    exact ⟨fun hc => absurd (h _ hc) (by decide), fun hc => absurd (h _ hc) (by decide),
      fun hc => absurd (h _ hc) (by decide)⟩

namespace Operand

/-- The text of the operand is one that an operand of its kind can have in an expression. -/
def Expressible (o : Operand) : Prop :=
  match o.kind with
  | .number => IsNumeral o.text.toList
  | .variable => IsWord o.text.toList
  | .quoted => IsContent o.text.toList

def chars (o : Operand) : List Char := o.source.toList

theorem chars_number (text : String) : chars ⟨.number, text⟩ = text.toList := rfl

theorem chars_variable (text : String) : chars ⟨.variable, text⟩ = text.toList := rfl

theorem chars_quoted (text : String) :
    chars ⟨.quoted, text⟩ = '"' :: (text.toList ++ ['"']) := by
  simp [chars, source]

/-- The symbol of the operand at an offset, with the blanks after it. -/
def symbolAt (o : Operand) (n : Nat) (gap : List Char) : SymbolTree :=
  ⟨⟨n, o.chars ++ gap⟩,
    match o.kind with
    | .number => .number ⟨n, o.text.toList⟩
    | .variable => .variable ⟨n, o.text.toList⟩
    | .quoted => .string ⟨n, o.chars ++ gap⟩ ⟨n + 1, o.text.toList⟩⟩

theorem operand_symbolAt (o : Operand) (n : Nat) (gap : List Char) :
    (o.symbolAt n gap).operand.operand = o := by
  obtain ⟨kind, text⟩ := o
  cases kind <;> simp [symbolAt, OperandTree.operand, Span.text]

end Operand

/-- A run of blanks. -/
@[ext] structure Blanks where
  chars : List Char
  blank : ∀ c ∈ chars, isGap c = true

def Blanks.none : Blanks := ⟨[], fun _ h => absurd h List.not_mem_nil⟩

/-- The blanks of an expression: in front of it, on both sides of the operator, and behind it. -/
@[ext] structure Spacing where
  before : Blanks
  left : Blanks
  right : Blanks
  after : Blanks

namespace Condition

def Expressible (c : Condition) : Prop := c.left.Expressible ∧ c.right.Expressible

/-- The text of the condition from its first operand on. -/
def body (c : Condition) (g : Spacing) : List Char :=
  (c.left.chars ++ g.left.chars) ++
    ((c.operator.chars ++ g.right.chars) ++ (c.right.chars ++ g.after.chars))

/-- The text that spells the condition with the blanks. -/
def spell (c : Condition) (g : Spacing) : List Char := g.before.chars ++ c.body g

/-- The text is one of those that spell the condition. -/
def Spells (c : Condition) (g : Spacing) (s : String) : Prop :=
  c.Expressible ∧ s.toList = c.spell g

/-- The trees of the operands and the operator in a body that begins at the offset. -/
def partsAt (c : Condition) (n : Nat) (g : Spacing) : SymbolTree × OperatorTree × SymbolTree :=
  let sign := n + byteLength (c.left.chars ++ g.left.chars)
  let second := sign + byteLength (c.operator.chars ++ g.right.chars)
  (c.left.symbolAt n g.left.chars,
    ⟨⟨sign, c.operator.chars ++ g.right.chars⟩, ⟨sign, c.operator.chars⟩, c.operator⟩,
    c.right.symbolAt second g.after.chars)

/-- The parse tree of a spelling. -/
def tree (c : Condition) (g : Spacing) : ParseTree :=
  let first := byteLength g.before.chars
  let (left, op, right) := c.partsAt first g
  ⟨⟨0, c.spell g⟩, ⟨first, c.body g⟩, left, op, right⟩

end Condition

/-- The condition that a parse tree holds. -/
def ParseTree.value (t : ParseTree) : Condition :=
  ⟨t.left.operand.operand, t.operator.operator, t.right.operand.operand⟩

theorem value_tree (c : Condition) (g : Spacing) : (c.tree g).value = c := by
  simp only [ParseTree.value, Condition.tree, Condition.partsAt, Operand.operand_symbolAt]

/-- A parse tree tells both the condition and the blanks it was read with. -/
theorem tree_injective {c d : Condition} {g h : Spacing} (heq : c.tree g = d.tree h) :
    c = d ∧ g = h := by
  have hc : c = d := by rw [← value_tree c g, heq, value_tree]
  subst hc
  have hleft := congrArg (fun t => t.left.span.chars) heq
  have hoperator := congrArg (fun t => t.operator.span.chars) heq
  have hright := congrArg (fun t => t.right.span.chars) heq
  have hroot := congrArg (fun t => t.root.chars) heq
  have hbody := congrArg (fun t => t.condition.chars) heq
  simp only [Condition.tree, Condition.partsAt, Operand.symbolAt, List.append_cancel_left_eq]
    at hleft hoperator hright
  simp only [Condition.tree, Condition.spell] at hroot hbody
  rw [hbody, List.append_cancel_right_eq] at hroot
  exact ⟨rfl, Spacing.ext (Blanks.ext hroot) (Blanks.ext hleft) (Blanks.ext hoperator)
    (Blanks.ext hright)⟩

end AlertPolicy.Expr
