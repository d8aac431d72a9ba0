import AlertPolicy.Proofs.Expr.Acceptance

/-!
Printed conditions. The printer neither escapes nor checks, so a condition that was built from any
operands is printed all the same; it is read back as itself exactly if its operands are ones that an
expression can hold.
-/

namespace AlertPolicy.Expr

def Blanks.space : Blanks := ⟨[' '], by simp [isGap]⟩

/-- The blanks of a printed condition. -/
def Spacing.printed : Spacing := ⟨.none, .space, .space, .none⟩

/-- A printed condition is laid out as one of its spellings, whatever its operands are. -/
theorem toList_source (c : Condition) : c.source.toList = c.spell .printed := by
  simp [Condition.source, Condition.spell, Condition.body, Operand.chars, Operator.text,
    Spacing.printed, Blanks.none, Blanks.space]

theorem spells_source {c : Condition} (h : c.Expressible) : c.Spells .printed c.source :=
  ⟨h, toList_source c⟩

/-- No text is read as a condition that cannot be expressed. -/
theorem expressible_of_parse {s : String} {c : Condition} (h : Condition.parse s = .ok c) :
    c.Expressible := by
  obtain ⟨g, hspells⟩ := condition_parse_eq_ok_iff.1 h
  exact hspells.1

theorem parse_source {c : Condition} (h : c.Expressible) : Condition.parse c.source = .ok c :=
  condition_parse_eq_ok_iff.2 ⟨.printed, spells_source h⟩

/-- A printed condition is read back as itself exactly if both its operands can be expressed. So two
such conditions are never printed alike, and what another condition is printed as is refused or is
read as a different one. -/
theorem printed_reads_back_iff (c : Condition) :
    (Condition.parse c.source = .ok c ↔ c.left.Expressible ∧ c.right.Expressible) ∧
    (∀ d : Condition, c.Expressible → d.Expressible → c.source = d.source → c = d) ∧
    (¬ c.Expressible →
      (∃ e, Condition.parse c.source = .error e) ∨
        ∃ d, Condition.parse c.source = .ok d ∧ d ≠ c) := by
  refine ⟨⟨expressible_of_parse, parse_source⟩, ?_, ?_⟩
  · intro d hc hd heq
    have hread := parse_source hd
    rw [← heq, parse_source hc] at hread
    exact Except.ok.inj hread
  · intro hc
    cases h : Condition.parse c.source with
    | error e => exact .inl ⟨e, rfl⟩
    | ok d =>
        refine .inr ⟨d, rfl, ?_⟩
        rintro rfl
        exact hc (expressible_of_parse h)

-- A variable with the text of a number is printed as that number.
example : (Condition.parse (Condition.source ⟨⟨.variable, "1"⟩, .less, ⟨.number, "2"⟩⟩)).toOption =
    some ⟨⟨.number, "1"⟩, .less, ⟨.number, "2"⟩⟩ := by decide +kernel

end AlertPolicy.Expr
