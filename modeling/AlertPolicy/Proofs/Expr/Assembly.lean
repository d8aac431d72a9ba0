import AlertPolicy.Expr.Builder

/-!
Builders after any sequence of calls. A builder holds the first two operands and the first operator
of all that it was given; which calls it took, what it answers to the next one and what it finishes
with follow from the parts that it was given.
-/

namespace AlertPolicy.Expr

namespace Part

def operand? : Part → Option Operand
  | operand o => some o
  | operator _ => none

def operator? : Part → Option Operator
  | operand _ => none
  | operator op => some op

end Part

/-- The operands among the parts. -/
def operandsOf (parts : List Part) : List Operand := parts.filterMap Part.operand?

/-- The operators among the parts. -/
def operatorsOf (parts : List Part) : List Operator := parts.filterMap Part.operator?

section Lists

variable (o : Operand) (op : Operator) (parts : List Part)

@[simp] theorem operandsOf_cons_operand :
    operandsOf (.operand o :: parts) = o :: operandsOf parts := rfl

@[simp] theorem operandsOf_cons_operator :
    operandsOf (.operator op :: parts) = operandsOf parts := rfl

@[simp] theorem operatorsOf_cons_operand :
    operatorsOf (.operand o :: parts) = operatorsOf parts := rfl

@[simp] theorem operatorsOf_cons_operator :
    operatorsOf (.operator op :: parts) = op :: operatorsOf parts := rfl

end Lists

def OperandSlots.ofList : List Operand → OperandSlots
  | [] => .none
  | [left] => .one left
  | left :: right :: _ => .both left right

/-- What a condition is assembled to from operands and operators in the order in which they came. -/
def assembled : List Operand → List Operator → Except AssemblyError Condition
  | _, [] => .error (.incomplete .operator)
  | [], _ :: _ => .error (.incomplete .operands)
  | [_], _ :: _ => .error (.incomplete .rightOperand)
  | left :: right :: _, op :: _ => .ok ⟨left, op, right⟩

namespace Builder

/-- The builder after calls that were made one after the other, whatever came of them. -/
def after (b : Builder) (parts : List Part) : Builder := parts.foldl offer b

/-- Those of the calls that succeeded. -/
def taken (b : Builder) : List Part → List Part
  | [] => []
  | part :: parts =>
      match b.answer part with
      | .ok _ => part :: taken (b.offer part) parts
      | .error _ => taken (b.offer part) parts

/-- The builder that was given these operands and these operators. -/
def given (os : List Operand) (ops : List Operator) : Builder := ⟨.ofList os, ops.head?⟩

variable (os : List Operand) (ops : List Operator)

/-! ### One call -/

theorem offer_operand (o : Operand) : (given os ops).offer (.operand o) = given (os ++ [o]) ops := by
  rcases os with _ | ⟨left, _ | ⟨right, rest⟩⟩ <;> rfl

theorem offer_operator (op : Operator) :
    (given os ops).offer (.operator op) = given os (ops ++ [op]) := by
  cases ops <;> rfl

theorem answer_operand (o : Operand) :
    (given os ops).answer (.operand o) =
      if 2 ≤ os.length then .error (.tooManyOperands o) else .ok () := by
  rcases os with _ | ⟨left, _ | ⟨right, rest⟩⟩
  · rfl
  · rfl
  · simp only [List.length_cons, Nat.le_add_left, if_true]
    rfl

theorem answer_operator (op : Operator) :
    (given os ops).answer (.operator op) =
      match ops with
      | [] => .ok ()
      | kept :: _ => .error (.duplicateOperator kept op) := by
  cases ops <;> rfl

/-- The operands that were moved out are put back when the call is refused. -/
theorem offer_of_refused {b : Builder} {part : Part} {e : AssemblyError}
    (h : b.answer part = .error e) : b.offer part = b := by
  obtain ⟨slots, sign⟩ := b
  cases part with
  | operand o =>
      cases slots with
      | none | one left => contradiction
      | both left right => rfl
  | operator op =>
      cases sign with
      | none => contradiction
      | some kept => rfl

theorem finish_given : (given os ops).finish = assembled os ops := by
  rcases ops with _ | ⟨op, ops⟩
  · rfl
  · rcases os with _ | ⟨left, _ | ⟨right, rest⟩⟩ <;> rfl

theorem isComplete_iff (b : Builder) : b.isComplete = true ↔ ∃ c, b.finish = .ok c := by
  obtain ⟨slots, sign⟩ := b
  cases slots <;> cases sign <;> simp [isComplete, finish]

/-! ### All calls -/

theorem after_given (parts : List Part) :
    (given os ops).after parts = given (os ++ operandsOf parts) (ops ++ operatorsOf parts) := by
  induction parts generalizing os ops with
  | nil => simp [after, operandsOf, operatorsOf]
  | cons part parts ih =>
      rw [after, List.foldl_cons]
      cases part with
      | operand o =>
          rw [offer_operand, ← after, ih]
          simp
      | operator op =>
          rw [offer_operator, ← after, ih]
          simp

/-- An operand is among the calls that succeeded if fewer than two came before it. -/
theorem taken_operand (o : Operand) (parts : List Part) :
    (given os ops).taken (.operand o :: parts) =
      if os.length < 2 then .operand o :: (given (os ++ [o]) ops).taken parts
      else (given (os ++ [o]) ops).taken parts := by
  rw [taken, answer_operand, offer_operand]
  by_cases hfull : 2 ≤ os.length
  · rw [if_pos hfull, if_neg (Nat.not_lt.2 hfull)]
  · rw [if_neg hfull, if_pos (Nat.not_le.1 hfull)]

/-- An operator is among them if none came before it. -/
theorem taken_operator (op : Operator) (parts : List Part) :
    (given os ops).taken (.operator op :: parts) =
      if ops.length < 1 then .operator op :: (given os (ops ++ [op])).taken parts
      else (given os (ops ++ [op])).taken parts := by
  rw [taken, answer_operator, offer_operator]
  cases ops <;> rfl

theorem operandsOf_taken (parts : List Part) :
    operandsOf ((given os ops).taken parts) = (operandsOf parts).take (2 - os.length) := by
  induction parts generalizing os ops with
  | nil => simp [taken, operandsOf]
  | cons part parts ih =>
      cases part with
      | operand o =>
          have hrest := ih (os ++ [o]) ops
          rw [List.length_append, List.length_singleton] at hrest
          rw [taken_operand, operandsOf_cons_operand]
          split
          · next hroom =>
              rw [operandsOf_cons_operand, hrest, ← List.take_succ_cons]
              congr 1
              omega
          · next hfull =>
              rw [hrest, Nat.sub_eq_zero_of_le (by omega), Nat.sub_eq_zero_of_le (by omega)]
              rfl
      | operator op =>
          rw [taken_operator]
          split <;> exact ih os (ops ++ [op])

theorem operatorsOf_taken (parts : List Part) :
    operatorsOf ((given os ops).taken parts) = (operatorsOf parts).take (1 - ops.length) := by
  induction parts generalizing os ops with
  | nil => simp [taken, operatorsOf]
  | cons part parts ih =>
      cases part with
      | operand o =>
          rw [taken_operand]
          split <;> exact ih (os ++ [o]) ops
      | operator op =>
          have hrest := ih os (ops ++ [op])
          rw [List.length_append, List.length_singleton] at hrest
          rw [taken_operator, operatorsOf_cons_operator]
          split
          · next hroom =>
              rw [operatorsOf_cons_operator, hrest, ← List.take_succ_cons]
              congr 1
              omega
          · next hfull =>
              rw [hrest, Nat.sub_eq_zero_of_le (by omega), Nat.sub_eq_zero_of_le (by omega)]
              rfl

/-- After any calls, an operand is refused exactly if two calls with operands have succeeded, and an
operator exactly if one with an operator has, which is the one it is refused for. A refused call
leaves the very builder it was made on. What the builder finishes with, and whether it is complete,
is told by the first two operands and the first operator that it was given. -/
theorem builder_keeps_first_parts (parts : List Part) :
    let b := empty.after parts
    let succeeded := empty.taken parts
    (∀ o e, b.answer (.operand o) = .error e ↔
      (operandsOf succeeded).length = 2 ∧ e = .tooManyOperands o) ∧
    (∀ op e, b.answer (.operator op) = .error e ↔
      ∃ kept, operatorsOf succeeded = [kept] ∧ e = .duplicateOperator kept op) ∧
    (∀ part e, b.answer part = .error e → b.offer part = b) ∧
    operandsOf succeeded = (operandsOf parts).take 2 ∧
    operatorsOf succeeded = (operatorsOf parts).take 1 ∧
    b.finish = assembled (operandsOf parts) (operatorsOf parts) ∧
    (b.isComplete = true ↔ ∃ c, b.finish = .ok c) := by
  intro b succeeded
  have hb : b = given (operandsOf parts) (operatorsOf parts) := after_given [] [] parts
  have hoperands : operandsOf succeeded = (operandsOf parts).take 2 := operandsOf_taken [] [] parts
  have hoperators : operatorsOf succeeded = (operatorsOf parts).take 1 :=
    operatorsOf_taken [] [] parts
  refine ⟨?_, ?_, ?_, hoperands, hoperators, ?_, isComplete_iff b⟩
  · intro o e
    rw [hb, answer_operand, hoperands, List.length_take]
    by_cases hfull : 2 ≤ (operandsOf parts).length
    · rw [if_pos hfull, Nat.min_eq_left hfull]
      simp [eq_comm]
    · have hmin : min 2 (operandsOf parts).length ≠ 2 := by omega
      rw [if_neg hfull]
      simp [hmin]
  · intro op e
    rw [hb, answer_operator, hoperators]
    cases operatorsOf parts with
    | nil => simp
    | cons kept ops => simp [eq_comm]
  · intro part e h
    exact offer_of_refused h
  · rw [hb, finish_given]

end Builder

end AlertPolicy.Expr
