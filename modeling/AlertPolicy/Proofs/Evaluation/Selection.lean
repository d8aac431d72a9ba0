import AlertPolicy.Evaluation
import AlertPolicy.Proofs.Number.Value
import AlertPolicy.Proofs.Sample.Order

/-!
Which labels an evaluation selects. A label is selected if one of its samples compares to the
threshold as the operator says, where samples and threshold are compared by the extended reals that
they stand for. Nothing else about the series counts: neither their order, nor which series of a
label a sample is in, nor samples that are not numbers.
-/

namespace AlertPolicy.Expr

open Number Sample

/-- The relation of two values that an operator stands for. -/
def Operator.Relates : Operator → EReal → EReal → Prop
  | .equal, x, y => x = y
  | .notEqual, x, y => x ≠ y
  | .lessOrEqual, x, y => x ≤ y
  | .greaterOrEqual, x, y => y ≤ x
  | .less, x, y => x < y
  | .greater, x, y => y < x

/-- The value is among the samples of the label, and it is a number. -/
def Observed (series : List Series) (l : Label) (v : Binary64) : Prop :=
  v.isNaN = false ∧ ∃ s ∈ series, s.label = l ∧ v ∈ s.values

/-- The labels that are selected by an operator and a threshold. -/
def selected (op : Operator) (t : Binary64) (series : List Series) : OrderedSet Label :=
  OrderedSet.ofList ((series.filter fun s => op.matches t s.values).map Series.label)

variable {op : Operator} {t v : Binary64} {series other : List Series} {l : Label}

/-! ### Comparisons -/

theorem Operator.holds_iff (hv : v.isNaN = false) (ht : t.isNaN = false) :
    op.holds v t = true ↔ op.Relates v.value t.value := by
  cases op with
  | equal => exact Binary64.equals_iff hv ht
  | notEqual =>
      rw [Operator.holds, Bool.not_eq_true', ← Bool.not_eq_true, Binary64.equals_iff hv ht]
      exact Iff.rfl
  | lessOrEqual => exact Binary64.atMost_iff hv ht
  | greaterOrEqual => exact Binary64.atMost_iff ht hv
  | less => exact Binary64.lessThan_iff hv ht
  | greater => exact Binary64.lessThan_iff ht hv

theorem Operator.matches_iff (ht : t.isNaN = false) {values : List Binary64} :
    op.matches t values = true ↔
      ∃ v ∈ values, v.isNaN = false ∧ op.Relates v.value t.value := by
  rw [Operator.matches, List.any_eq_true]
  refine exists_congr fun v => and_congr_right fun _ => ?_
  rw [Bool.and_eq_true, Bool.not_eq_true']
  exact and_congr_right fun hv => holds_iff hv ht

theorem mem_selected (ht : t.isNaN = false) :
    l ∈ selected op t series ↔ ∃ v, Observed series l v ∧ op.Relates v.value t.value := by
  rw [selected, OrderedSet.mem_ofList, List.mem_map]
  constructor
  · rintro ⟨s, hs, rfl⟩
    obtain ⟨hseries, hmatches⟩ := List.mem_filter.1 hs
    obtain ⟨v, hv, hnumber, hrelates⟩ := (Operator.matches_iff ht).1 hmatches
    exact ⟨v, ⟨hnumber, s, hseries, rfl, hv⟩, hrelates⟩
  · rintro ⟨v, ⟨hnumber, s, hseries, rfl, hv⟩, hrelates⟩
    have hmatches := (Operator.matches_iff ht).2 ⟨v, hv, hnumber, hrelates⟩
    exact ⟨s, List.mem_filter.2 ⟨hseries, hmatches⟩, rfl⟩

/-! ### Evaluation -/

variable {c : Condition}

theorem evaluate_eq (c : Condition) (series : List Series) :
    c.evaluate series = c.threshold.map fun t => selected c.operator t series := rfl

theorem isFinite_of_threshold (h : c.threshold = .ok t) : t.isFinite = true := by
  rw [Condition.threshold] at h
  split at h
  · split at h
    · next v _ =>
      by_cases hv : v.isFinite
      · rw [if_pos hv] at h
        cases h
        exact hv
      · rw [if_neg hv] at h
        contradiction
    · contradiction
  · contradiction

theorem isNaN_of_threshold (h : c.threshold = .ok t) : t.isNaN = false :=
  Binary64.not_isNaN_of_isFinite (isFinite_of_threshold h)

theorem evaluate_of_threshold (h : c.threshold = .ok t) (series : List Series) :
    c.evaluate series = .ok (selected c.operator t series) := by
  rw [evaluate_eq, h]
  rfl

/-- Only the numbers observed of each label count. -/
theorem evaluate_congr (c : Condition)
    (h : ∀ l v, Observed other l v ↔ Observed series l v) :
    c.evaluate other = c.evaluate series := by
  cases hc : c.threshold with
  | error e => rw [evaluate_eq, evaluate_eq, hc]; rfl
  | ok t =>
      have ht := isNaN_of_threshold hc
      rw [evaluate_of_threshold hc, evaluate_of_threshold hc]
      refine congrArg Except.ok (OrderedSet.eq_of_mem_iff fun l => ?_)
      rw [mem_selected ht, mem_selected ht]
      simp only [h]

/-! ### Other ways to hand over the same samples -/

/-- The same numbers of the same labels, differently arranged: series and samples in another order,
a series cut in two or two of one label joined, and with or without samples that are no numbers and
series that are empty. -/
inductive Rearranged : List Series → List Series → Prop where
  | series {xs ys : List Series} (h : xs.Perm ys) : Rearranged xs ys
  | samples (l : Label) {vs ws : List Binary64} (h : vs.Perm ws) (rest : List Series) :
      Rearranged (⟨l, vs⟩ :: rest) (⟨l, ws⟩ :: rest)
  | split (l : Label) (vs ws : List Binary64) (rest : List Series) :
      Rearranged (⟨l, vs ++ ws⟩ :: rest) (⟨l, vs⟩ :: ⟨l, ws⟩ :: rest)
  | notNumber (l : Label) {v : Binary64} (h : v.isNaN = true) (vs : List Binary64)
      (rest : List Series) : Rearranged (⟨l, vs⟩ :: rest) (⟨l, v :: vs⟩ :: rest)
  | empty (l : Label) (rest : List Series) : Rearranged rest (⟨l, []⟩ :: rest)
  | symm {xs ys : List Series} (h : Rearranged xs ys) : Rearranged ys xs
  | trans {xs ys zs : List Series} (h : Rearranged xs ys) (h' : Rearranged ys zs) :
      Rearranged xs zs

theorem observed_cons {s : Series} :
    Observed (s :: series) l v ↔
      (v.isNaN = false ∧ s.label = l ∧ v ∈ s.values) ∨ Observed series l v := by
  simp only [Observed, List.mem_cons, exists_eq_or_imp, and_or_left]

theorem observed_append :
    Observed (series ++ other) l v ↔ Observed series l v ∨ Observed other l v := by
  simp only [Observed, List.mem_append, or_and_right, exists_or, and_or_left]

theorem Rearranged.observed (h : Rearranged series other) :
    Observed other l v ↔ Observed series l v := by
  induction h with
  | series h => simp only [Observed, h.mem_iff]
  | samples l h rest => simp only [observed_cons, h.mem_iff]
  | split l vs ws rest =>
      simp only [observed_cons, List.mem_append, and_or_left, or_assoc]
  | @notNumber l u h vs rest =>
      have hne : v.isNaN = false → v ≠ u := by
        rintro hv rfl
        rw [h] at hv
        contradiction
      simp only [observed_cons, List.mem_cons]
      refine or_congr ?_ Iff.rfl
      refine and_congr_right fun hv => ?_
      simp only [hne hv, false_or]
  | empty l rest => simp only [observed_cons, List.not_mem_nil, and_false, false_or]
  | symm _ ih => exact ih.symm
  | trans _ _ ih ih' => exact ih'.trans ih

/-- Where the threshold is no finite number, evaluation fails with what is said of it. Else it lists
in the order of labels just those with a number that compares to the threshold as the operator says.
The samples may be rearranged, and batches evaluated on their own and united. -/
theorem evaluation_selects_labels (c : Condition) (series : List Series) :
    (∀ e, c.threshold = .error e → c.evaluate series = .error e) ∧
    (∀ t, c.threshold = .ok t → ∃ labels, c.evaluate series = .ok labels ∧
      (∀ l, l ∈ labels ↔ ∃ s ∈ series, s.label = l ∧
        ∃ v ∈ s.values, v.isNaN = false ∧ c.operator.Relates v.value t.value) ∧
      labels.toList.Pairwise Label.Before) ∧
    (∀ other, Rearranged series other → c.evaluate other = c.evaluate series) ∧
    ∀ more first second, c.evaluate series = .ok first → c.evaluate more = .ok second →
      ∃ both, c.evaluate (series ++ more) = .ok both ∧
        ∀ l, l ∈ both ↔ l ∈ first ∨ l ∈ second := by
  refine ⟨?_, ?_, fun other h => evaluate_congr c fun l v => h.observed, ?_⟩
  · intro e he
    rw [evaluate_eq, he]
    rfl
  · intro t ht
    refine ⟨_, evaluate_of_threshold ht series, fun l => ?_, ?_⟩
    · rw [mem_selected (isNaN_of_threshold ht)]
      constructor
      · rintro ⟨v, ⟨hv, s, hs, hl, hmem⟩, hrelates⟩
        exact ⟨s, hs, hl, v, hmem, hv, hrelates⟩
      · rintro ⟨s, hs, hl, v, hmem, hv, hrelates⟩
        exact ⟨v, ⟨hv, s, hs, hl, hmem⟩, hrelates⟩
    · exact (selected c.operator t series).increasing.imp Label.compare_eq_lt.1
  · intro more first second hfirst hsecond
    cases hc : c.threshold with
    | error e =>
        rw [evaluate_eq, hc] at hfirst
        contradiction
    | ok t =>
        have ht := isNaN_of_threshold hc
        rw [evaluate_of_threshold hc] at hfirst hsecond
        cases hfirst
        cases hsecond
        refine ⟨_, evaluate_of_threshold hc _, fun l => ?_⟩
        simp only [mem_selected ht, observed_append, or_and_right, exists_or]

theorem evaluation_selects_labels_despite_nan :
    let c : Condition := ⟨⟨.variable, "vm.rx"⟩, .notEqual, ⟨.number, "1"⟩⟩
    let one : Binary64 := ⟨0x3FF0000000000000⟩
    let infinity : Binary64 := ⟨0x7FF0000000000000⟩
    let a : Label := ⟨"a", none⟩
    let b : Label := ⟨"b", some "eth0"⟩
    let series : List Series := [⟨a, [.nan, one]⟩, ⟨b, [one, infinity]⟩]
    c.threshold = .ok one ∧
      (∃ labels, c.evaluate series = .ok labels ∧ a ∉ labels ∧ b ∈ labels) ∧
      c.evaluate [⟨a, [one]⟩, ⟨b, [one, infinity]⟩] = c.evaluate series := by
  intro c one infinity a b series
  have hthreshold : c.threshold = .ok one := by decide +kernel
  obtain ⟨-, hlabels, hrearranged, -⟩ := evaluation_selects_labels c series
  obtain ⟨labels, hevaluate, hmem, -⟩ := hlabels one hthreshold
  refine ⟨hthreshold, ⟨labels, hevaluate, ?_, ?_⟩, ?_⟩
  · rw [hmem]
    rintro ⟨s, hs, hl, v, hv, hnumber, hne⟩
    rcases List.mem_pair.1 hs with rfl | rfl
    · rcases List.mem_pair.1 hv with rfl | rfl
      · exact absurd hnumber (by decide)
      · exact hne rfl
    · exact absurd hl (by decide)
  · rw [hmem]
    refine ⟨⟨b, [one, infinity]⟩, by simp [series], rfl, infinity, by simp, by decide, ?_⟩
    have hholds : Operator.notEqual.holds infinity one = true := by decide
    exact (Operator.holds_iff (by decide) (by decide)).1 hholds
  · exact hrearranged _ (.symm (.notNumber a (by decide) [one] _))

end AlertPolicy.Expr
