import AlertPolicy.Expr.Parse
import AlertPolicy.Proofs.Expr.Conditions

/-!
The conditions of texts. The tokens of a tree fill a builder completely, so a text that has a parse
tree has a condition, and the conditions that texts denote are the ones they spell.
-/

namespace AlertPolicy.Expr

theorem parseTree_parts (t : ParseTree) :
    t.tokens.filterMap Token.part? =
      [.operand t.left.operand.operand, .operator t.operator.operator,
        .operand t.right.operand.operand] := by
  obtain ⟨_, _, ⟨_, left⟩, _, _, right⟩ := t
  cases left <;> cases right <;> rfl

theorem ofTokens_tokens (t : ParseTree) : Builder.ofTokens t.tokens = .ok t.value := by
  rw [Builder.ofTokens, parseTree_parts]
  rfl

/-- Only the grammar refuses a text; the builder takes every tree. -/
theorem condition_parse_eq (s : String) :
    Condition.parse s =
      match ParseTree.parse s with
      | .error e => .error (.parse e)
      | .ok tree => .ok tree.value := by
  unfold Condition.parse
  cases ParseTree.parse s with
  | error e => rfl
  | ok tree => simp only [ofTokens_tokens]

theorem condition_parse_eq_ok_iff {s : String} {c : Condition} :
    Condition.parse s = .ok c ↔ ∃ g, c.Spells g s := by
  rw [condition_parse_eq]
  constructor
  · intro h
    cases hparse : ParseTree.parse s with
    | error e =>
        rw [hparse] at h
        contradiction
    | ok tree =>
        rw [hparse] at h
        obtain ⟨d, g, hd, rfl⟩ := spells_of_parse hparse
        simp only [value_tree] at h
        cases h
        exact ⟨g, hd⟩
  · rintro ⟨g, h⟩
    rw [parse_of_spells h]
    exact congrArg Except.ok (value_tree c g)

/-- A text is accepted as the condition it spells, and it spells at most one, in one way. -/
theorem parse_accepts_spellings (s : String) (c : Condition) :
    (Condition.parse s = .ok c ↔ ∃ g, c.Spells g s) ∧
      ∀ g d h, c.Spells g s → d.Spells h s → c = d ∧ g = h :=
  ⟨condition_parse_eq_ok_iff, fun _ _ _ => spelling_unique⟩

end AlertPolicy.Expr
