import AlertPolicy.Engine.Outcome

/-!
What comes of one rule. Whether a variable is fetched for it depends on its text alone; once one is,
only the fetch can keep the rule from giving a report, because the threshold has been looked at.
-/

namespace AlertPolicy.Engine

open AlertPolicy.Expr Number Policy Sample Store Time

/-- The operand is a number literal that stands for a finite number. -/
def IsFiniteNumber (o : Operand) : Prop :=
  o.kind = .number ∧ ∃ t, Binary64.ofText? o.text = some t ∧ t.isFinite = true

/-- The text of the rule is the condition, its right side is a threshold, and its left side is the
variable. -/
structure Watches (r : Rule) (c : Condition) (v : String) : Prop where
  parses : Condition.parse r.expr = .ok c
  bounded : IsFiniteNumber c.right
  reads : c.left = ⟨.variable, v⟩

/-- How far a rule can be followed before any sample is looked at. -/
inductive Standing (r : Rule) : Prop where
  | unreadable (e : ExprError) (h : Condition.parse r.expr = .error e)
  | unbounded (c : Condition) (e : ThresholdError) (hc : Condition.parse r.expr = .ok c)
      (h : c.threshold = .error e)
  | literal (c : Condition) (t : Binary64) (hc : Condition.parse r.expr = .ok c)
      (ht : c.threshold = .ok t) (h : c.left.reference? = none)
  | watching (c : Condition) (v : String) (h : Watches r c v)

/-! ### Thresholds and variables -/

theorem threshold_eq_ok {c : Condition} :
    (∃ t, c.threshold = .ok t) ↔ IsFiniteNumber c.right := by
  obtain ⟨left, op, ⟨kind, text⟩⟩ := c
  cases kind with
  | number =>
      simp only [Condition.threshold, IsFiniteNumber, true_and]
      cases Binary64.ofText? text with
      | none => simp
      | some t =>
          cases ht : t.isFinite with
          | false => simp [ht]
          | true => simp [ht]
  | «variable» => simp [Condition.threshold, IsFiniteNumber]
  | quoted => simp [Condition.threshold, IsFiniteNumber]

theorem reference?_eq_some {o : Operand} {v : String} :
    o.reference? = some v ↔ o = ⟨.variable, v⟩ := by
  obtain ⟨kind, text⟩ := o
  cases kind <;> simp [Operand.reference?]

theorem evaluate_of_isFiniteNumber {c : Condition} (h : IsFiniteNumber c.right)
    (series : List Series) : ∃ labels, c.evaluate series = .ok labels := by
  obtain ⟨t, ht⟩ := threshold_eq_ok.2 h
  rw [Condition.evaluate, ht]
  exact ⟨_, rfl⟩

theorem Watches.unique {r : Rule} {c d : Condition} {v w : String} (hc : Watches r c v)
    (hd : Watches r d w) : c = d ∧ v = w := by
  have hparse := hc.parses
  rw [hd.parses] at hparse
  cases hparse
  have hleft := hc.reads
  rw [hd.reads] at hleft
  exact ⟨rfl, (congrArg Operand.text hleft).symm⟩

theorem standing (r : Rule) : Standing r := by
  cases hparse : Condition.parse r.expr with
  | error e => exact .unreadable e hparse
  | ok c =>
      cases hthreshold : c.threshold with
      | error e => exact .unbounded c e hparse hthreshold
      | ok t =>
          cases hleft : c.left.reference? with
          | none => exact .literal c t hparse hthreshold hleft
          | some v =>
              exact .watching c v
                ⟨hparse, threshold_eq_ok.1 ⟨t, hthreshold⟩, reference?_eq_some.1 hleft⟩

/-! ### Evaluation -/

variable {source : Source} {time : Instant} {g : Group} {i : Nat} {r : Rule}

theorem evaluateRule_unreadable {e : ExprError} (h : Condition.parse r.expr = .error e) :
    evaluateRule source time g i r = ⟨g.name, i, r, none, .error (.expr e)⟩ := by
  unfold evaluateRule
  simp only [h]

theorem evaluateRule_unbounded {c : Condition} {e : ThresholdError}
    (hc : Condition.parse r.expr = .ok c) (h : c.threshold = .error e) :
    evaluateRule source time g i r =
      ⟨g.name, i, r, none, .error (.expr (.threshold e))⟩ := by
  unfold evaluateRule
  simp only [hc, h]

theorem evaluateRule_literal {c : Condition} {t : Binary64} (hc : Condition.parse r.expr = .ok c)
    (ht : c.threshold = .ok t) (h : c.left.reference? = none) :
    evaluateRule source time g i r = ⟨g.name, i, r, none, .error (.notVariable c.left)⟩ := by
  unfold evaluateRule
  simp only [hc, ht, h]

theorem evaluateRule_failed {c : Condition} {v : String} {e : StoreError} (h : Watches r c v)
    (hv : source v = .error e) :
    evaluateRule source time g i r = ⟨g.name, i, r, some v, .error (.store e)⟩ := by
  obtain ⟨t, ht⟩ := threshold_eq_ok.2 h.bounded
  unfold evaluateRule
  simp only [h.parses, ht, reference?_eq_some.2 h.reads, hv]

theorem evaluateRule_reported {c : Condition} {v : String} {series : List Series}
    {labels : OrderedSet Label} (h : Watches r c v) (hv : source v = .ok series)
    (hl : c.evaluate series = .ok labels) :
    evaluateRule source time g i r =
      ⟨g.name, i, r, some v, .ok ⟨g.name, i, r.record, g.annotations, labels, time⟩⟩ := by
  obtain ⟨t, ht⟩ := threshold_eq_ok.2 h.bounded
  unfold evaluateRule
  simp only [h.parses, ht, reference?_eq_some.2 h.reads, hv, hl]

/-- What has to come of a rule: one fetch and a report if it can be had, and else a failure. -/
structure IsOutcome (source : Source) (time : Instant) (g : Group) (i : Nat) (r : Rule)
    (o : Outcome) : Prop where
  place : o.group = g.name ∧ o.index = i ∧ o.rule = r
  refused : (∀ c v, ¬ Watches r c v) → o.fetched = none ∧ ∃ f, o.result = .error f
  fetched : ∀ c v, Watches r c v → o.fetched = some v
  failed : ∀ c v e, Watches r c v → source v = .error e → o.result = .error (.store e)
  reported : ∀ c v series, Watches r c v → source v = .ok series →
    ∃ labels, c.evaluate series = .ok labels ∧
      o.result = .ok ⟨g.name, i, r.record, g.annotations, labels, time⟩

theorem IsOutcome.of_refused {f : RuleFailure} (h : ∀ c v, ¬ Watches r c v) :
    IsOutcome source time g i r ⟨g.name, i, r, none, .error f⟩ where
  place := ⟨rfl, rfl, rfl⟩
  refused _ := ⟨rfl, f, rfl⟩
  fetched c v hw := absurd hw (h c v)
  failed c v _ hw := absurd hw (h c v)
  reported c v _ hw := absurd hw (h c v)

theorem evaluateRule_isOutcome (source : Source) (time : Instant) (g : Group) (i : Nat) (r : Rule) :
    IsOutcome source time g i r (evaluateRule source time g i r) := by
  cases standing r with
  | unreadable e h =>
      rw [evaluateRule_unreadable h]
      refine .of_refused fun c v hw => ?_
      rw [hw.parses] at h
      contradiction
  | unbounded c e hc h =>
      rw [evaluateRule_unbounded hc h]
      refine .of_refused fun d v hw => ?_
      rw [hw.parses] at hc
      cases hc
      obtain ⟨t, ht⟩ := threshold_eq_ok.2 hw.bounded
      rw [ht] at h
      contradiction
  | literal c t hc ht h =>
      rw [evaluateRule_literal hc ht h]
      refine .of_refused fun d v hw => ?_
      rw [hw.parses] at hc
      cases hc
      rw [reference?_eq_some.2 hw.reads] at h
      contradiction
  | watching c v hw =>
      cases hv : source v with
      | error e =>
          rw [evaluateRule_failed hw hv]
          refine ⟨⟨rfl, rfl, rfl⟩, fun h => absurd hw (h c v), ?_, ?_, ?_⟩
          · intro d w hd
            rw [(hd.unique hw).2]
          · intro d w e' hd he
            rw [(hd.unique hw).2, hv] at he
            rw [Except.error.inj he]
          · intro d w series hd hs
            rw [(hd.unique hw).2, hv] at hs
            contradiction
      | ok series =>
          obtain ⟨labels, hl⟩ := evaluate_of_isFiniteNumber hw.bounded series
          rw [evaluateRule_reported hw hv hl]
          refine ⟨⟨rfl, rfl, rfl⟩, fun h => absurd hw (h c v), ?_, ?_, ?_⟩
          · intro d w hd
            rw [(hd.unique hw).2]
          · intro d w e hd he
            rw [(hd.unique hw).2, hv] at he
            contradiction
          · intro d w series' hd hs
            obtain ⟨rfl, rfl⟩ := hd.unique hw
            rw [hv] at hs
            cases hs
            exact ⟨labels, hl, rfl⟩

end AlertPolicy.Engine
