import AlertPolicy.Proofs.Engine.Outcome
import AlertPolicy.Proofs.Policy.Findings
import AlertPolicy.Proofs.Store.Fetch

/-!
What validation tells of evaluation. Both decide by the text of a rule, validation on its own and
evaluation on the way to a fetch: an error is an expression that always fails, a warning is one that
has no samples, and where nothing is found only the fetch can fail.
-/

namespace AlertPolicy.Engine

open AlertPolicy.Expr Number Policy Sample Store Time

/-! ### Findings of a condition -/

variable {place : Location} {c : Condition}

theorem errors_thresholdFindings :
    (thresholdFindings place c).errors = thresholdFindings place c := by
  rw [thresholdFindings]
  split
  · rfl
  · rfl

theorem warnings_thresholdFindings : (thresholdFindings place c).warnings = [] := by
  rw [thresholdFindings]
  split
  · rfl
  · rfl

theorem length_thresholdFindings : (thresholdFindings place c).length ≤ 1 := by
  rw [thresholdFindings]
  split
  · exact Nat.zero_le 1
  · exact Nat.le_refl 1

theorem errors_leftFindings : (leftFindings place c).errors = [] := by
  rw [leftFindings]
  split
  · rfl
  · split
    · rfl
    · rfl

theorem warnings_leftFindings : (leftFindings place c).warnings = leftFindings place c := by
  rw [leftFindings]
  split
  · rfl
  · split
    · rfl
    · rfl

theorem length_leftFindings : (leftFindings place c).length ≤ 1 := by
  rw [leftFindings]
  split
  · exact Nat.le_refl 1
  · split
    · exact Nat.zero_le 1
    · exact Nat.le_refl 1

theorem errors_append (fs fs' : Findings) :
    Findings.errors (fs ++ fs') = fs.errors ++ fs'.errors :=
  List.filter_append fs fs'

theorem warnings_append (fs fs' : Findings) :
    Findings.warnings (fs ++ fs') = fs.warnings ++ fs'.warnings :=
  List.filter_append fs fs'

/-! ### Findings of an expression -/

variable {expr : String}

theorem exprFindings_unreadable {e : ExprError} (h : Condition.parse expr = .error e) :
    exprFindings place expr = [⟨place, .noCondition expr e, none⟩] := by
  unfold exprFindings
  simp only [h]

/-- The errors of a condition are about its right side, the warnings about its left side. -/
theorem errors_exprFindings (h : Condition.parse expr = .ok c) :
    (exprFindings place expr).errors = thresholdFindings place c := by
  unfold exprFindings
  simp only [h]
  rw [errors_append, errors_thresholdFindings, errors_leftFindings, List.append_nil]

theorem warnings_exprFindings (h : Condition.parse expr = .ok c) :
    (exprFindings place expr).warnings = leftFindings place c := by
  unfold exprFindings
  simp only [h]
  rw [warnings_append, warnings_thresholdFindings, warnings_leftFindings, List.nil_append]

theorem length_errors_exprFindings : (exprFindings place expr).errors.length ≤ 1 := by
  cases h : Condition.parse expr with
  | error e =>
      rw [exprFindings_unreadable h]
      exact Nat.le_refl 1
  | ok c =>
      rw [errors_exprFindings h]
      exact length_thresholdFindings

theorem length_warnings_exprFindings : (exprFindings place expr).warnings.length ≤ 1 := by
  cases h : Condition.parse expr with
  | error e =>
      rw [exprFindings_unreadable h]
      exact Nat.zero_le 1
  | ok c =>
      rw [warnings_exprFindings h]
      exact length_leftFindings

/-! ### Agreement -/

variable {source : Source} {time : Instant} {g : Group} {j : Nat} {r : Rule}

/-- What validation finds in the text of a rule, next to what evaluation makes of it. -/
inductive Agreement (place : Location) (r : Rule) : Prop where
  | failing (f : Finding) (e : ExprError) (herrors : (exprFindings place r.expr).errors = [f])
      (houtcome : ∀ source time g j,
        evaluateRule source time g j r = ⟨g.name, j, r, none, .error (.expr e)⟩)
  | literal (f : Finding) (o : Operand) (herrors : (exprFindings place r.expr).errors = [])
      (hwarnings : (exprFindings place r.expr).warnings = [f])
      (houtcome : ∀ source time g j,
        evaluateRule source time g j r = ⟨g.name, j, r, none, .error (.notVariable o)⟩)
  | unknown (f : Finding) (c : Condition) (v : String) (e : StoreError)
      (herrors : (exprFindings place r.expr).errors = [])
      (hwarnings : (exprFindings place r.expr).warnings = [f])
      (hw : Watches r c v) (hv : VariableRef.parse v = .error e)
  | sound (c : Condition) (v : String) (ref : VariableRef)
      (herrors : (exprFindings place r.expr).errors = [])
      (hwarnings : (exprFindings place r.expr).warnings = [])
      (hw : Watches r c v) (hv : VariableRef.parse v = .ok ref)

theorem agreement (place : Location) (r : Rule) : Agreement place r := by
  cases standing r with
  | unreadable e h =>
      refine .failing ⟨place, .noCondition r.expr e, none⟩ e ?_ ?_
      · rw [exprFindings_unreadable h]
        rfl
      · intro source time g j
        exact evaluateRule_unreadable h
  | unbounded c e hc h =>
      refine .failing ⟨place, .noThreshold e, unquotedThreshold? c⟩ (.threshold e) ?_ ?_
      · rw [errors_exprFindings hc, thresholdFindings, h]
      · intro source time g j
        exact evaluateRule_unbounded hc h
  | literal c t hc ht h =>
      refine .literal ⟨place, .literalOnTheLeft c.left, none⟩ c.left ?_ ?_ ?_
      · rw [errors_exprFindings hc, thresholdFindings, ht]
      · rw [warnings_exprFindings hc, leftFindings, h]
      · intro source time g j
        exact evaluateRule_literal hc ht h
  | watching c v hw =>
      obtain ⟨t, ht⟩ := threshold_eq_ok.2 hw.bounded
      have hleft := reference?_eq_some.2 hw.reads
      have herrors : (exprFindings place r.expr).errors = [] := by
        rw [errors_exprFindings hw.parses, thresholdFindings, ht]
      cases hv : VariableRef.parse v with
      | error e =>
          refine .unknown ⟨place, .unknownVariable v, mendedVariable? v⟩ c v e herrors ?_ hw hv
          rw [warnings_exprFindings hw.parses, leftFindings, hleft]
          simp only [hv]
      | ok ref =>
          refine .sound c v ref herrors ?_ hw hv
          rw [warnings_exprFindings hw.parses, leftFindings, hleft]
          simp only [hv]

/-- Once a variable is fetched, only the fetch can fail. -/
theorem failure_of_watches {c : Condition} {v : String} {f : RuleFailure} (hw : Watches r c v)
    (h : (evaluateRule source time g j r).result = .error f) : ∃ e, f = .store e := by
  have houtcome := evaluateRule_isOutcome source time g j r
  cases hv : source v with
  | error e =>
      rw [houtcome.failed c v e hw hv] at h
      cases h
      exact ⟨e, rfl⟩
  | ok series =>
      obtain ⟨labels, -, hresult⟩ := houtcome.reported c v series hw hv
      rw [hresult] at h
      contradiction

theorem errors_iff (place : Location) :
    (exprFindings place r.expr).errors ≠ [] ↔
      ∃ e, (evaluateRule source time g j r).result = .error (.expr e) := by
  cases agreement place r with
  | failing f e herrors houtcome => simp [herrors, houtcome]
  | literal f o herrors hwarnings houtcome => simp [herrors, houtcome]
  | unknown f c v e herrors hwarnings hw hv =>
      refine ⟨fun h => absurd herrors h, ?_⟩
      intro ⟨e', hresult⟩
      obtain ⟨_, hstore⟩ := failure_of_watches hw hresult
      cases hstore
  | sound c v ref herrors hwarnings hw hv =>
      refine ⟨fun h => absurd herrors h, ?_⟩
      intro ⟨e', hresult⟩
      obtain ⟨_, hstore⟩ := failure_of_watches hw hresult
      cases hstore

theorem fetched_of_errors {place : Location} (h : (exprFindings place r.expr).errors ≠ []) :
    (evaluateRule source time g j r).fetched = none := by
  cases agreement place r with
  | failing f e herrors houtcome => rw [houtcome]
  | literal f o herrors hwarnings houtcome => exact absurd herrors h
  | unknown f c v e herrors hwarnings hw hv => exact absurd herrors h
  | sound c v ref herrors hwarnings hw hv => exact absurd herrors h

theorem warnings_iff (place : Location) :
    (exprFindings place r.expr).errors = [] ∧ (exprFindings place r.expr).warnings ≠ [] ↔
      (∃ o, (evaluateRule source time g j r).result = .error (.notVariable o)) ∨
        ∃ v e, (evaluateRule source time g j r).fetched = some v ∧
          VariableRef.parse v = .error e := by
  cases agreement place r with
  | failing f e herrors houtcome => simp [herrors, houtcome]
  | literal f o herrors hwarnings houtcome => simp [herrors, hwarnings, houtcome]
  | unknown f c v e herrors hwarnings hw hv =>
      have hfetched := (evaluateRule_isOutcome source time g j r).fetched c v hw
      rw [hwarnings, hfetched]
      exact ⟨fun _ => .inr ⟨v, e, rfl, hv⟩, fun _ => ⟨herrors, List.cons_ne_nil f []⟩⟩
  | sound c v ref herrors hwarnings hw hv =>
      have hfetched := (evaluateRule_isOutcome source time g j r).fetched c v hw
      rw [hwarnings, hfetched]
      constructor
      · intro h
        exact absurd rfl h.2
      · intro h
        cases h with
        | inl hliteral =>
            obtain ⟨o, hresult⟩ := hliteral
            obtain ⟨_, hstore⟩ := failure_of_watches hw hresult
            cases hstore
        | inr hunknown =>
            obtain ⟨w, e, hsame, he⟩ := hunknown
            cases hsame
            rw [hv] at he
            cases he

theorem clean_iff (place : Location) :
    (exprFindings place r.expr).errors = [] ∧ (exprFindings place r.expr).warnings = [] ↔
      ∃ v ref, (evaluateRule source time g j r).fetched = some v ∧
        VariableRef.parse v = .ok ref ∧
        (∀ e, source v = .error e →
          (evaluateRule source time g j r).result = .error (.store e)) ∧
        ∀ series, source v = .ok series →
          ∃ report, (evaluateRule source time g j r).result = .ok report := by
  cases agreement place r with
  | failing f e herrors houtcome => simp [herrors, houtcome]
  | literal f o herrors hwarnings houtcome => simp [herrors, hwarnings, houtcome]
  | unknown f c v e herrors hwarnings hw hv =>
      have hfetched := (evaluateRule_isOutcome source time g j r).fetched c v hw
      rw [hwarnings, hfetched]
      constructor
      · intro h
        exact absurd h.2 (List.cons_ne_nil f [])
      · intro ⟨w, ref, hsame, href, _⟩
        cases hsame
        rw [hv] at href
        cases href
  | sound c v ref herrors hwarnings hw hv =>
      have houtcome := evaluateRule_isOutcome source time g j r
      refine ⟨fun _ => ⟨v, ref, houtcome.fetched c v hw, hv, ?_, ?_⟩, fun _ => ⟨herrors, hwarnings⟩⟩
      · intro e he
        exact houtcome.failed c v e hw he
      · intro series hs
        obtain ⟨labels, -, hresult⟩ := houtcome.reported c v series hw hs
        exact ⟨_, hresult⟩

/-- At the place of an expression there is an error if and only if its evaluation fails whatever the
source answers, a warning and no error if and only if there are no samples of its left side, and
nothing if and only if only the fetch of its variable can fail. -/
theorem validation_predicts_evaluation {d : Document} {i : Nat} (hg : d.groups[i]? = some g)
    (hr : g.rules[j]? = some r) (source : Source) (time : Instant) :
    (Findings.at d.validate.errors (.expr i j) ≠ [] ↔
      ∃ e, (evaluateRule source time g j r).result = .error (.expr e)) ∧
    (Findings.at d.validate.errors (.expr i j) ≠ [] →
      (evaluateRule source time g j r).fetched = none) ∧
    (Findings.at d.validate.errors (.expr i j) = [] ∧
        Findings.at d.validate.warnings (.expr i j) ≠ [] ↔
      (∃ o, (evaluateRule source time g j r).result = .error (.notVariable o)) ∨
        ∃ v e, (evaluateRule source time g j r).fetched = some v ∧
          VariableRef.parse v = .error e) ∧
    (Findings.at d.validate.errors (.expr i j) = [] ∧
        Findings.at d.validate.warnings (.expr i j) = [] ↔
      ∃ v ref, (evaluateRule source time g j r).fetched = some v ∧
        VariableRef.parse v = .ok ref ∧
        (∀ e, source v = .error e →
          (evaluateRule source time g j r).result = .error (.store e)) ∧
        ∀ series, source v = .ok series →
          ∃ report, (evaluateRule source time g j r).result = .ok report) ∧
    (Findings.at d.validate.errors (.expr i j)).length ≤ 1 ∧
    (Findings.at d.validate.warnings (.expr i j)).length ≤ 1 ∧
    ∀ v e, VariableRef.parse v = .error e →
      ∀ (replies : Replies) (s : ServerSettings) (now : Int64),
        replies.fetch s now v = ⟨[], [], .error (.invalidVariable v)⟩ := by
  rw [at_errors, at_warnings, at_validate hg hr]
  exact ⟨errors_iff _, fetched_of_errors, warnings_iff _, clean_iff _, length_errors_exprFindings,
    length_warnings_exprFindings, fun v e hv => fetch_of_parse_error hv⟩

theorem validation_predicts_evaluation_of_quoted_threshold :
    let r : Rule := ⟨"busy", "vm.tx > \"1\""⟩
    let g : Group := ⟨"load", .empty, none, [⟨"busy", "vm.x.y.z > 1"⟩, r]⟩
    Findings.at (Document.validate ⟨[g]⟩).errors (.expr 0 1) ≠ [] ∧
      ∃ e, (evaluateRule (fun _ => .ok []) ⟨0⟩ g 1 r).result = .error (.expr e) := by
  intro r g
  have herrors : Findings.at (Document.validate ⟨[g]⟩).errors (.expr 0 1) ≠ [] := by decide +kernel
  have hg : (Document.mk [g]).groups[0]? = some g := rfl
  have hr : g.rules[1]? = some r := rfl
  exact ⟨herrors, (validation_predicts_evaluation hg hr (fun _ => .ok []) ⟨0⟩).1.1 herrors⟩

end AlertPolicy.Engine
