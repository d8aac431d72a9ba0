import AlertPolicy.Proofs.Expr.Longest
import AlertPolicy.Proofs.Expr.Printing

/-!
Operands put in the place of others. An operand that can be written may take the place of the first
operand of a text that spells a condition. Any text may take the place of the second one in a printed
condition; if it has no blanks at its ends and the result can be read at all, the first operand and
the operator are read as they were and the text is the second operand as a whole.
-/

namespace AlertPolicy.Expr

variable {c d : Condition} {g : Spacing} {s : String}

/-! ### The first operand -/

/-- What follows the first operand in a spelling. -/
def Condition.afterLeft (c : Condition) (g : Spacing) : List Char :=
  g.left.chars ++ ((c.operator.chars ++ g.right.chars) ++ (c.right.chars ++ g.after.chars))

theorem spell_eq_afterLeft (c : Condition) (g : Spacing) :
    c.spell g = g.before.chars ++ (c.left.chars ++ c.afterLeft g) := by
  rw [Condition.spell, Condition.body, Condition.afterLeft, List.append_assoc c.left.chars]

/-- The second text is the first one with another variable in the place of the one in front. -/
inductive ReplacesLeft (v w : String) (s t : String) : Prop where
  | intro (before : Blanks) (after : List Char)
      (first : s.toList = before.chars ++ (v.toList ++ after))
      (second : t.toList = before.chars ++ (w.toList ++ after))

theorem exists_replacesLeft {v : String} (w : String) (hc : Condition.parse s = .ok c)
    (hleft : c.left = ⟨.variable, v⟩) : ∃ t, ReplacesLeft v w s t := by
  obtain ⟨g, -, htext⟩ := condition_parse_eq_ok_iff.1 hc
  rw [spell_eq_afterLeft, hleft] at htext
  exact ⟨String.ofList (g.before.chars ++ (w.toList ++ c.afterLeft g)),
    .intro g.before (c.afterLeft g) htext String.toList_ofList⟩

/-- A variable that can be written is read in the place of the one that it replaces. -/
theorem parse_of_replacesLeft {v w t : String} (hc : Condition.parse s = .ok c)
    (hleft : c.left = ⟨.variable, v⟩) (hw : IsWord w.toList) (h : ReplacesLeft v w s t) :
    Condition.parse t = .ok { c with left := ⟨.variable, w⟩ } := by
  obtain ⟨g, hspells⟩ := condition_parse_eq_ok_iff.1 hc
  obtain ⟨before, after, hs, ht⟩ := h
  have hstops (after : List Char) : Stops isGap (v.toList ++ after) := by
    have hv := hspells.1.1
    rw [hleft] at hv
    exact stops_operand hv (by decide) (fun _ => not_isGap_of_isIdentifier) after
  have htext := hspells.2
  rw [spell_eq_afterLeft, hs, hleft, Operand.chars_variable] at htext
  obtain ⟨hbefore, hafter⟩ := cut_unique before.blank (hstops after) g.before.blank (hstops _) htext
  rw [List.append_cancel_left_eq] at hafter
  refine condition_parse_eq_ok_iff.2 ⟨g, ⟨hw, hspells.1.2⟩, ?_⟩
  rw [ht, hbefore, hafter, spell_eq_afterLeft]
  rfl

/-! ### The second operand -/

/-- Reading of the first operand ends where blanks or an operator follow. -/
theorem leads_afterLeft (hc : c.left.Expressible) (g : Spacing) :
    c.left.Leads (c.left.chars ++ c.afterLeft g) := by
  refine Operand.leads_of_endsAt hc (c.left.endsAt_of_stops ?_)
  rw [Condition.afterLeft, List.append_assoc]
  exact stops_append (g.left.stops (by decide) (by decide)) (stops_operator c.operator _).2

/-- How a spelling goes on after the first operand tells the blanks that follow it. -/
theorem left_blanks_unique {h : Spacing} (heq : c.afterLeft g = d.afterLeft h) :
    g.left.chars = h.left.chars ∧
      (c.operator.chars ++ g.right.chars) ++ (c.right.chars ++ g.after.chars) =
        (d.operator.chars ++ h.right.chars) ++ (d.right.chars ++ h.after.chars) := by
  refine cut_unique g.left.blank ?_ h.left.blank ?_ heq
  · rw [List.append_assoc]
    exact (stops_operator c.operator _).1
  · rw [List.append_assoc]
    exact (stops_operator d.operator _).1

theorem operator_unique {op op' : Operator} {rest rest' : List Char} (h : Stops (· == '=') rest)
    (h' : Stops (· == '=') rest') (heq : op.chars ++ rest = op'.chars ++ rest') :
    op = op' ∧ rest = rest' := by
  have hread := read?_chars op h
  rw [heq, read?_chars op' h'] at hread
  cases hread
  exact ⟨rfl, rfl⟩

theorem Blanks.eq_nil_of_stops {gap : Blanks} {cs : List Char}
    (h : Stops isGap (cs ++ gap.chars).reverse) : gap.chars = [] := by
  rw [List.reverse_append] at h
  cases hlast : gap.chars.reverse with
  | nil => exact List.reverse_eq_nil_iff.1 hlast
  | cons x r =>
      have hx : x ∈ gap.chars.reverse := by
        rw [hlast]
        exact List.mem_cons_self
      rw [hlast, List.cons_append, stops_cons, gap.blank x (List.mem_reverse.1 hx)] at h
      contradiction

/-- A text without blanks at its ends is what is read behind blanks, if that is an operand. -/
theorem chars_eq_of_blanks {gap gap' after : Blanks} {o : Operand} {cs : List Char}
    (hfront : Stops isGap cs) (hback : Stops isGap cs.reverse) (ho : o.Expressible)
    (heq : gap.chars ++ cs = gap'.chars ++ (o.chars ++ after.chars)) : o.chars = cs := by
  obtain ⟨-, hcs⟩ := cut_unique gap.blank hfront gap'.blank
    (stops_operand ho (by decide) (fun _ => not_isGap_of_isIdentifier) _) heq
  rw [hcs] at hback
  rw [hcs, Blanks.eq_nil_of_stops hback, List.append_nil]

/-- A printed condition the second operand of which perhaps cannot be written, but has no blanks at
its ends, is read with its first operand, its operator and all of its second operand's text. -/
theorem parts_of_spells_source (hc : c.left.Expressible) (hfront : Stops isGap c.right.chars)
    (hback : Stops isGap c.right.chars.reverse) (h : d.Spells g c.source) :
    d.left = c.left ∧ d.operator = c.operator ∧ d.right.chars = c.right.chars := by
  obtain ⟨hd, htext⟩ := h
  rw [toList_source, spell_eq_afterLeft, spell_eq_afterLeft] at htext
  -- Piece by piece both spellings are cut at the same place, so each piece is the same in both.
  obtain ⟨-, hbody⟩ := cut_unique Spacing.printed.before.blank
    (stops_operand hc (by decide) (fun _ => not_isGap_of_isIdentifier) _) g.before.blank
    (stops_operand hd.1 (by decide) (fun _ => not_isGap_of_isIdentifier) _) htext
  have hleft : d.left = c.left := by
    have hleads := leads_afterLeft hd.1 g
    rw [← hbody] at hleads
    exact hleads.unique (leads_afterLeft hc .printed)
  rw [hleft, List.append_cancel_left_eq] at hbody
  obtain ⟨-, hsign⟩ := left_blanks_unique hbody
  rw [List.append_assoc, List.append_assoc] at hsign
  have hequals : Stops (· == '=') (g.right.chars ++ (d.right.chars ++ g.after.chars)) :=
    stops_append (g.right.stops (by decide) (by decide))
      (stops_operand hd.2 (by decide) (fun _ => not_equals_of_isIdentifier) _)
  obtain ⟨hoperator, hsecond⟩ := operator_unique (stops_cons.2 (by decide)) hequals hsign
  have hright : Blanks.space.chars ++ c.right.chars =
      g.right.chars ++ (d.right.chars ++ g.after.chars) := by
    rw [← hsecond]
    exact congrArg (' ' :: ·) (List.append_nil _).symm
  exact ⟨hleft, hoperator.symm, chars_eq_of_blanks hfront hback hd.2 hright⟩

end AlertPolicy.Expr
