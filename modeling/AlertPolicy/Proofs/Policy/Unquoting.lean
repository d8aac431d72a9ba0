import AlertPolicy.Policy.Suggestion
import AlertPolicy.Proofs.Engine.Outcome
import AlertPolicy.Proofs.Expr.Replacement

/-!
Thresholds between quotes. The proposal is read again before it is made, and no proposal is read as
anything else than the condition it was printed from; so it is made exactly if the text between the
quotes is a number literal with a finite value.
-/

namespace AlertPolicy.Policy

open AlertPolicy.Engine AlertPolicy.Expr

/-! ### Texts without their blanks -/

theorem stops_dropWhile (p : Char → Bool) (cs : List Char) : Stops p (cs.dropWhile p) := by
  obtain ⟨taken, rest, rfl, htaken, hrest⟩ := exists_cut p cs
  rw [dropWhile_append_of_stops htaken hrest]
  exact hrest

theorem stops_trim_front (s : String) : Stops Text.isBlank (Text.trim s).toList := by
  have hcut := List.takeWhile_append_dropWhile (p := Text.isBlank)
    (l := (s.toList.dropWhile Text.isBlank).reverse)
  have hback := congrArg List.reverse hcut
  rw [List.reverse_append, List.reverse_reverse] at hback
  have hstops := stops_dropWhile Text.isBlank s.toList
  rw [← hback] at hstops
  rw [Text.trim, String.toList_ofList]
  exact stops_of_append hstops

theorem stops_trim_back (s : String) : Stops Text.isBlank (Text.trim s).toList.reverse := by
  rw [Text.trim, String.toList_ofList, List.reverse_reverse]
  exact stops_dropWhile Text.isBlank _

theorem isBlank_of_isGap {c : Char} (h : isGap c = true) : Text.isBlank c = true := by
  simp only [isGap, Bool.or_eq_true, beq_iff_eq] at h
  rcases h with rfl | rfl <;> decide

/-! ### Conditions with the threshold unquoted -/

variable {c read : Condition}

theorem chars_unquoted (c : Condition) :
    (unquoted c).right.chars = (Text.trim c.right.text).toList := rfl

theorem eq_unquoted_of_parse (hc : c.left.Expressible)
    (hread : Condition.parse (unquoted c).source = .ok read) (hkind : read.right.kind = .number) :
    read = unquoted c := by
  obtain ⟨g, hspells⟩ := condition_parse_eq_ok_iff.1 hread
  obtain ⟨hleft, hoperator, hright⟩ := parts_of_spells_source (c := unquoted c) hc
    ((stops_trim_front _).mono fun _ => isBlank_of_isGap)
    ((stops_trim_back _).mono fun _ => isBlank_of_isGap) hspells
  -- What stands behind the operator is the number's own text, since a number has no quotes.
  obtain ⟨left, operator, ⟨kind, text⟩⟩ := read
  cases hkind
  rw [Operand.chars_number, chars_unquoted] at hright
  cases hleft
  cases hoperator
  rw [String.toList_injective hright]
  rfl

/-- The threshold is proposed without its quotes exactly if it is a number literal that stands for a
finite number. -/
theorem unquotedThreshold?_eq_some {mended : String} (hc : c.left.Expressible)
    (hquoted : c.right.kind = .quoted) :
    unquotedThreshold? c = some mended ↔
      mended = (unquoted c).source ∧ (unquoted c).right.Expressible ∧
        IsFiniteNumber (unquoted c).right := by
  rw [unquotedThreshold?, hquoted]
  simp only
  constructor
  · intro h
    cases hparse : Condition.parse (unquoted c).source with
    | error e =>
        simp only [hparse, reduceCtorEq] at h
    | ok read =>
        rw [hparse] at h
        cases hthreshold : read.threshold with
        | error e =>
            simp only [hthreshold, reduceCtorEq] at h
        | ok t =>
            simp only [hthreshold] at h
            cases h
            have hfinite := threshold_eq_ok.1 ⟨t, hthreshold⟩
            cases eq_unquoted_of_parse hc hparse hfinite.1
            exact ⟨rfl, (expressible_of_parse hparse).2, hfinite⟩
  · rintro ⟨rfl, hright, hfinite⟩
    obtain ⟨t, ht⟩ := threshold_eq_ok.2 hfinite
    simp only [parse_source (c := unquoted c) ⟨hc, hright⟩, ht]

end AlertPolicy.Policy
