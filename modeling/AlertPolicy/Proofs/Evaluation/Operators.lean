import AlertPolicy.Proofs.Evaluation.Selection

/-!
How the six operators go together. Each selects a label for one of its samples, so a label can be
selected by two operators that exclude each other; the sets they select are related all the same as
the relations of the operators are.
-/

namespace AlertPolicy.Expr

open Number Sample

/-- The set of labels that are selected by an operator and a threshold. -/
def selection (series : List Series) (op : Operator) (t : Binary64) : Set Label :=
  {l | l ∈ selected op t series}

variable {series : List Series} {op p q : Operator} {t a b : Binary64}

theorem mem_selection (ht : t.isNaN = false) {l : Label} :
    l ∈ selection series op t ↔ ∃ v, Observed series l v ∧ op.Relates v.value t.value :=
  mem_selected ht

/-- An operator that stands for either of two relations selects what one or the other does. -/
theorem selection_eq_union (ht : t.isNaN = false)
    (h : ∀ x y, op.Relates x y ↔ p.Relates x y ∨ q.Relates x y) :
    selection series op t = selection series p t ∪ selection series q t := by
  ext l
  simp only [Set.mem_union, mem_selection ht, h, and_or_left, exists_or]

theorem selection_subset (ha : a.isNaN = false) (hb : b.isNaN = false)
    (h : ∀ x, p.Relates x a.value → q.Relates x b.value) :
    selection series p a ⊆ selection series q b := by
  intro l hl
  rw [mem_selection ha] at hl
  rw [mem_selection hb]
  obtain ⟨v, hv, hrelates⟩ := hl
  exact ⟨v, hv, h v.value hrelates⟩

/-- Every number is less than the threshold, equal to it or greater. -/
theorem selection_any (ht : t.isNaN = false) :
    selection series .less t ∪ selection series .equal t ∪ selection series .greater t =
      {l | ∃ v, Observed series l v} := by
  ext l
  simp only [Set.mem_union, mem_selection ht, ← exists_or, ← and_or_left]
  refine exists_congr fun v => and_iff_left ?_
  rcases lt_trichotomy v.value t.value with hlt | heq | hgt
  · exact .inl (.inl hlt)
  · exact .inl (.inr heq)
  · exact .inr hgt

/-- An operator that allows equality selects what the strict one and equality do, and inequality what
both strict ones do; these and equality take in every label with a number. A threshold that is
exceeded in the wide sense exceeds all lower ones, and the other way round. -/
theorem operators_are_consistent (series : List Series) :
    (∀ c t, Condition.threshold c = .ok t → ∃ labels, c.evaluate series = .ok labels ∧
      {l | l ∈ labels} = selection series c.operator t) ∧
    (∀ t : Binary64, t.isFinite = true →
      selection series .lessOrEqual t = selection series .less t ∪ selection series .equal t ∧
      selection series .greaterOrEqual t =
        selection series .greater t ∪ selection series .equal t ∧
      selection series .notEqual t = selection series .less t ∪ selection series .greater t ∧
      selection series .less t ∪ selection series .equal t ∪ selection series .greater t =
        {l | ∃ v, Observed series l v}) ∧
    ∀ a b : Binary64, a.isFinite = true → b.isFinite = true → a.value < b.value →
      selection series .greater b ⊆ selection series .greaterOrEqual b ∧
      selection series .greaterOrEqual b ⊆ selection series .greater a ∧
      selection series .less a ⊆ selection series .lessOrEqual a ∧
      selection series .lessOrEqual a ⊆ selection series .less b := by
  refine ⟨fun c t h => ⟨_, evaluate_of_threshold h series, rfl⟩, ?_, ?_⟩
  · intro t hfinite
    have ht := Binary64.not_isNaN_of_isFinite hfinite
    refine ⟨?_, ?_, ?_, selection_any ht⟩
    · exact selection_eq_union ht fun x y => le_iff_lt_or_eq
    · exact selection_eq_union ht fun x y => le_iff_lt_or_eq.trans (or_congr Iff.rfl eq_comm)
    · exact selection_eq_union ht fun x y => ne_iff_lt_or_gt
  · intro a b hfinite hfinite' hlt
    have ha := Binary64.not_isNaN_of_isFinite hfinite
    have hb := Binary64.not_isNaN_of_isFinite hfinite'
    refine ⟨?_, ?_, ?_, ?_⟩
    · exact selection_subset hb hb fun x => le_of_lt
    · exact selection_subset hb ha fun x => hlt.trans_le
    · exact selection_subset ha ha fun x => le_of_lt
    · exact selection_subset ha hb fun x hle => hle.trans_lt hlt

theorem operators_are_consistent_one_and_two :
    let c : Condition := ⟨⟨.variable, "vm.rx"⟩, .lessOrEqual, ⟨.number, "1"⟩⟩
    let one : Binary64 := ⟨0x3FF0000000000000⟩
    let two : Binary64 := ⟨0x4000000000000000⟩
    let series : List Series := [⟨⟨"a", none⟩, [.nan, two]⟩, ⟨⟨"b", none⟩, [one, two]⟩]
    c.threshold = .ok one ∧ one.isFinite = true ∧ two.isFinite = true ∧ one.value < two.value ∧
      (∃ labels, c.evaluate series = .ok labels ∧
        {l | l ∈ labels} = selection series .less one ∪ selection series .equal one) ∧
      selection series .greaterOrEqual two ⊆ selection series .greater one := by
  intro c one two series
  have hthreshold : c.threshold = .ok one := by decide +kernel
  have hone : one.isFinite = true := by decide
  have htwo : two.isFinite = true := by decide
  have hlt : one.value < two.value :=
    (Binary64.lessThan_iff (by decide) (by decide)).1 (by decide)
  obtain ⟨hselects, hunions, hsubsets⟩ := operators_are_consistent series
  obtain ⟨labels, hevaluate, hlabels⟩ := hselects c one hthreshold
  refine ⟨hthreshold, hone, htwo, hlt, ⟨labels, hevaluate, ?_⟩, ?_⟩
  · rw [hlabels]
    exact (hunions one hone).1
  · exact (hsubsets one two hone htwo hlt).2.1

end AlertPolicy.Expr
