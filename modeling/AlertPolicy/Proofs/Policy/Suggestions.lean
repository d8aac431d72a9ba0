import AlertPolicy.Proofs.Engine.Prediction
import AlertPolicy.Proofs.Policy.Mending
import AlertPolicy.Proofs.Policy.Unquoting

/-!
Suggestions of validation. One is made exactly if there is a text that mends the expression, and
each that is made does: what it names is read as it was meant, and nothing is found any more on the
side of the expression that was mended.
-/

namespace AlertPolicy.Policy

open AlertPolicy.Engine AlertPolicy.Expr Number Store

variable {place : Location} {expr text v : String} {c : Condition} {f : Finding}

/-- The finding suggests the condition with its quoted threshold unquoted, if the text between the
quotes is a number literal with a finite value. -/
structure SuggestsUnquoting (f : Finding) (c : Condition) (text : String) : Prop where
  exactly : f.suggestion.isSome = true ↔
    IsNumeral (Text.trim text).toList ∧
      ∃ x, Binary64.ofText? (Text.trim text) = some x ∧ x.isFinite = true
  works : ∀ s, f.suggestion = some s →
    ∃ fixed, s = "Did you mean '" ++ fixed ++ "'?" ∧
      Condition.parse fixed = .ok ⟨c.left, c.operator, ⟨.number, Text.trim text⟩⟩ ∧
      ∀ place, (exprFindings place fixed).errors = []

/-- The finding suggests a variable in the place of `v`, if there is one that mends it. -/
structure SuggestsMending (f : Finding) (expr : String) (c : Condition) (v : String) : Prop where
  exactly : f.suggestion.isSome = true ↔ ∃ fixed, Mends v fixed
  names : ∀ s, f.suggestion = some s → ∃ fixed, s = "Did you mean '" ++ fixed ++ "'?" ∧ Mends v fixed
  replaces : ∀ fixed, Mends v fixed → ∃ mended, ReplacesLeft v fixed expr mended
  works : ∀ fixed mended, Mends v fixed → ReplacesLeft v fixed expr mended →
    Condition.parse mended = .ok { c with left := ⟨.variable, fixed⟩ } ∧
      ∀ place, (exprFindings place mended).warnings = []

theorem isSome_suggestion : f.suggestion.isSome = true ↔ ∃ w, f.replacement = some w := by
  rw [Finding.suggestion, Option.isSome_map, Option.isSome_iff_exists]

theorem suggestion_eq_some {s : String} :
    f.suggestion = some s ↔ ∃ w, f.replacement = some w ∧ "Did you mean '" ++ w ++ "'?" = s :=
  Option.map_eq_some_iff

/-! ### Thresholds -/

theorem errors_of_quoted (hc : Condition.parse expr = .ok c) (hright : c.right = ⟨.quoted, text⟩) :
    (exprFindings place expr).errors =
      [⟨place, .noThreshold (.notNumeric c.right), unquotedThreshold? c⟩] := by
  have hthreshold : c.threshold = .error (.notNumeric c.right) := by
    rw [Condition.threshold, hright]
  rw [errors_exprFindings hc, thresholdFindings, hthreshold]

theorem suggestsUnquoting (hc : Condition.parse expr = .ok c) (hright : c.right = ⟨.quoted, text⟩)
    (hf : f.replacement = unquotedThreshold? c) : SuggestsUnquoting f c text := by
  have hleft := (expressible_of_parse hc).1
  have hquoted : c.right.kind = .quoted := by rw [hright]
  have hunquoted : (unquoted c).right = ⟨.number, Text.trim text⟩ := by rw [unquoted, hright]
  constructor
  · rw [isSome_suggestion, hf]
    simp only [unquotedThreshold?_eq_some hleft hquoted, hunquoted, exists_eq_left]
    constructor
    · rintro ⟨hnumeral, -, hfinite⟩
      exact ⟨hnumeral, hfinite⟩
    · rintro ⟨hnumeral, hfinite⟩
      exact ⟨hnumeral, rfl, hfinite⟩
  · intro s hs
    obtain ⟨fixed, hfixed, rfl⟩ := suggestion_eq_some.1 hs
    rw [hf, unquotedThreshold?_eq_some hleft hquoted] at hfixed
    obtain ⟨rfl, hexpressible, hfinite⟩ := hfixed
    have hparse : Condition.parse (unquoted c).source = .ok (unquoted c) :=
      parse_source ⟨hleft, hexpressible⟩
    obtain ⟨t, ht⟩ := threshold_eq_ok.2 hfinite
    refine ⟨(unquoted c).source, rfl, ?_, fun place => ?_⟩
    · rw [hparse, ← hunquoted]
      rfl
    · rw [errors_exprFindings hparse, thresholdFindings, ht]

/-! ### Variables -/

theorem warnings_of_unresolved {e : StoreError} (hc : Condition.parse expr = .ok c)
    (hleft : c.left = ⟨.variable, v⟩) (hv : VariableRef.parse v = .error e) :
    (exprFindings place expr).warnings =
      [⟨place, .unknownVariable v, mendedVariable? v⟩] := by
  rw [warnings_exprFindings hc, leftFindings, reference?_eq_some.2 hleft]
  simp only [hv]

theorem warnings_of_resolved {ref : VariableRef} (hc : Condition.parse expr = .ok c)
    (hleft : c.left = ⟨.variable, v⟩) (hv : VariableRef.parse v = .ok ref) :
    (exprFindings place expr).warnings = [] := by
  rw [warnings_exprFindings hc, leftFindings, reference?_eq_some.2 hleft]
  simp only [hv]

theorem suggestsMending (hc : Condition.parse expr = .ok c) (hleft : c.left = ⟨.variable, v⟩)
    (hf : f.replacement = mendedVariable? v) : SuggestsMending f expr c v := by
  have hword : IsWord v.toList := by
    have hexpressible := (expressible_of_parse hc).1
    rwa [hleft] at hexpressible
  constructor
  · rw [isSome_suggestion, hf]
    exact exists_congr fun fixed => mendedVariable?_eq_some hword.2.1
  · intro s hs
    obtain ⟨fixed, hfixed, rfl⟩ := suggestion_eq_some.1 hs
    rw [hf] at hfixed
    exact ⟨fixed, rfl, (mendedVariable?_eq_some hword.2.1).1 hfixed⟩
  · intro fixed _
    exact exists_replacesLeft fixed hc hleft
  · intro fixed mended hfixed hmended
    have hparse := parse_of_replacesLeft hc hleft (hfixed.isWord hword.2.1) hmended
    obtain ⟨_, _, _, _, _, _, _, _, ⟨ref, href⟩, _⟩ := hfixed
    exact ⟨hparse, fun place => warnings_of_resolved hparse rfl href⟩

/-! ### Documents -/

/-- The error about a quoted threshold and the warning about a variable that cannot be resolved
suggest what mends the expression, exactly if there is something that does. -/
theorem suggestions_mend {d : Document} {i j : Nat} {g : Group} {r : Rule}
    (hg : d.groups[i]? = some g) (hr : g.rules[j]? = some r)
    (hc : Condition.parse r.expr = .ok c) :
    (∀ text, c.right = ⟨.quoted, text⟩ →
      ∃ f, Findings.at d.validate.errors (.expr i j) = [f] ∧ SuggestsUnquoting f c text) ∧
    ∀ v e, c.left = ⟨.variable, v⟩ → VariableRef.parse v = .error e →
      ∃ f, Findings.at d.validate.warnings (.expr i j) = [f] ∧ SuggestsMending f r.expr c v := by
  constructor
  · intro text hright
    refine ⟨⟨.expr i j, .noThreshold (.notNumeric c.right), unquotedThreshold? c⟩, ?_,
      suggestsUnquoting hc hright (by dsimp only)⟩
    rw [at_errors, at_validate hg hr, errors_of_quoted hc hright]
  · intro v e hleft hv
    refine ⟨⟨.expr i j, .unknownVariable v, mendedVariable? v⟩, ?_,
      suggestsMending hc hleft (by dsimp only)⟩
    rw [at_warnings, at_validate hg hr, warnings_of_unresolved hc hleft hv]

theorem suggestions_mend_quoted_threshold_and_misspelt_field :
    let r : Rule := ⟨"busy", "vm.a.b.rxx > \" 5 \""⟩
    let g : Group := ⟨"load", .empty, none, [r]⟩
    let d : Document := ⟨[g]⟩
    (∃ f, Findings.at d.validate.errors (.expr 0 0) = [f] ∧ f.suggestion.isSome = true) ∧
      ∃ f, Findings.at d.validate.warnings (.expr 0 0) = [f] ∧ f.suggestion.isSome = true := by
  intro r g d
  have hg : d.groups[0]? = some g := rfl
  have hr : g.rules[0]? = some r := rfl
  have hc : Condition.parse r.expr =
      .ok ⟨⟨.variable, "vm.a.b.rxx"⟩, .greater, ⟨.quoted, " 5 "⟩⟩ := by decide +kernel
  obtain ⟨herror, hwarning⟩ := suggestions_mend hg hr hc
  obtain ⟨f, hf, hquoted⟩ := herror " 5 " rfl
  obtain ⟨f', hf', hmisspelt⟩ := hwarning "vm.a.b.rxx" (.invalidVariable "vm.a.b.rxx") rfl
    (by decide +kernel)
  have hnumeral : IsNumeral (Text.trim " 5 ").toList :=
    ⟨[], ['5'], [], by decide +kernel, .inl rfl, rfl, .inl rfl⟩
  have hfinite : (Binary64.ofText? (Text.trim " 5 ")).any (·.isFinite) = true := by decide +kernel
  have hidentifier : "vm.a.b.rxx".toList.all isIdentifier = true := by decide
  have hmends : Mends "vm.a.b.rxx" "vm.a.b.rx" :=
    (mendedVariable?_eq_some (List.all_eq_true.1 hidentifier)).1 (by decide +kernel)
  refine ⟨⟨f, hf, hquoted.exactly.2 ⟨hnumeral, ?_⟩⟩, f', hf', hmisspelt.exactly.2 ⟨_, hmends⟩⟩
  simpa only [Option.any_eq_true] using hfinite

end AlertPolicy.Policy
