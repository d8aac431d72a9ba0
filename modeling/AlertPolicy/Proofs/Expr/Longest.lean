import AlertPolicy.Proofs.Expr.Conditions

/-!
Longest matches, said without reading. Of all operands that can be written and that a text begins
with, one is the longest, and it is the one that ends where reading ends it; the same holds of the
operators.
-/

namespace AlertPolicy.Expr

open AlertPolicy.Number

variable {rest : List Char}

/-- The text begins with the operand and with no longer one. -/
structure Operand.Leads (o : Operand) (cs : List Char) : Prop where
  expressible : o.Expressible
  begins : o.chars <+: cs
  longest : ∀ other : Operand, other.Expressible → other.chars <+: cs →
    other.chars.length ≤ o.chars.length

/-- The text begins with the operator and with no longer one. -/
structure Operator.Leads (op : Operator) (cs : List Char) : Prop where
  begins : op.chars <+: cs
  longest : ∀ other : Operator, other.chars <+: cs → other.chars.length ≤ op.chars.length

/-! ### Operators -/

theorem Operator.read?_of_leads {op : Operator} (h : op.Leads (op.chars ++ rest)) :
    Operator.read? (op.chars ++ rest) = some (op, rest) := by
  have hequals (longer : Operator) (heq : longer.chars = op.chars ++ ['=']) :
      Stops (· == '=') rest := by
    cases rest with
    | nil => exact stops_nil
    | cons c r =>
        rw [stops_cons]
        cases hc : c == '=' with
        | false => rfl
        | true =>
            have hbegins : longer.chars <+: op.chars ++ c :: r :=
              ⟨r, by rw [heq, eq_of_beq hc, List.append_assoc, List.singleton_append]⟩
            have hlength := h.longest longer hbegins
            rw [heq, List.length_append, List.length_singleton] at hlength
            omega
  cases op with
  | equal => rfl
  | notEqual => rfl
  | lessOrEqual => rfl
  | greaterOrEqual => rfl
  | less => exact read?_chars .less (hequals .lessOrEqual rfl)
  | greater => exact read?_chars .greater (hequals .greaterOrEqual rfl)

theorem Operator.leads_of_read? {cs : List Char} {op : Operator}
    (h : Operator.read? cs = some (op, rest)) : op.Leads cs := by
  have hcs := Operator.eq_append_of_read? h
  refine ⟨⟨rest, hcs.symm⟩, fun other hother => ?_⟩
  obtain ⟨r, hr⟩ := hother
  -- A longer one has two characters, and then it would have been found first.
  subst hcs
  cases op with
  | equal | notEqual | lessOrEqual | greaterOrEqual => cases other <;> decide
  | less =>
      cases other with
      | lessOrEqual =>
          cases hr
          cases h
      | less => exact Nat.le_refl 1
      | greater => exact Nat.le_refl 1
      | equal | notEqual | greaterOrEqual => cases hr
  | greater =>
      cases other with
      | greaterOrEqual =>
          cases hr
          cases h
      | less => exact Nat.le_refl 1
      | greater => exact Nat.le_refl 1
      | equal | notEqual | lessOrEqual => cases hr

theorem Operator.read?_eq_none {cs : List Char} :
    Operator.read? cs = none ↔ ∀ op : Operator, ¬ op.chars <+: cs := by
  rw [Operator.read?, Option.map_eq_none_iff, List.find?_eq_none]
  simp only [List.isPrefixOf_iff_prefix]
  exact ⟨fun h op => h op op.mem_all, fun h op _ => h op⟩

/-! ### Operands -/

theorem isIdentifier_of_isNumeral {cs : List Char} (h : IsNumeral cs) :
    ∀ c ∈ cs, isIdentifier c = true := by
  obtain ⟨sign, whole, fraction, rfl, hs, hw, hf⟩ := h
  have hdigits {ds : List Char} (hds : isDigits ds) : ∀ c ∈ ds, isIdentifier c = true :=
    fun c hc => isIdentifier_of_isDigit (all_of_isDigits hds c hc)
  intro c hc
  rcases List.mem_append.1 hc with hc | hc
  · rcases hs with rfl | rfl
    · contradiction
    · cases List.mem_singleton.1 hc
      decide
  · rcases List.mem_append.1 hc with hc | hc
    · exact hdigits hw c hc
    · rcases hf with rfl | ⟨ds, hds, rfl⟩
      · contradiction
      · rcases List.mem_cons.1 hc with rfl | hc
        · decide
        · exact hdigits hds c hc

theorem not_beginsNoNumber_of_isNumeral {cs : List Char} (h : IsNumeral cs) :
    ¬ BeginsNoNumber (cs ++ rest) := by
  obtain ⟨sign, whole, fraction, rfl, hs, hw, -⟩ := h
  obtain ⟨d, ds, rfl⟩ := List.exists_cons_of_ne_nil (ne_nil_of_isDigits hw)
  have hd : d.isDigit = true := all_of_isDigits hw d List.mem_cons_self
  intro hbegins
  rcases hs with rfl | rfl
  · rw [stops_cons.1 hbegins.1] at hd
    contradiction
  · have hstops := hbegins.2 (d :: (ds ++ fraction) ++ rest) rfl
    rw [stops_cons.1 hstops] at hd
    contradiction

namespace Operand

/-- What an operand begins with tells whether it is quoted. -/
theorem exists_head {o : Operand} (ho : o.Expressible) :
    ∃ c cs, o.chars = c :: cs ∧ if o.kind = .quoted then c = '"' else isIdentifier c = true := by
  obtain ⟨kind, text⟩ := o
  cases kind with
  | number =>
      obtain ⟨sign, whole, fraction, heq, hs, hw, -⟩ := id ho
      have hne : text.toList ≠ [] := by
        intro hnil
        change text.toList = _ at heq
        rw [hnil] at heq
        have hwhole := List.append_eq_nil_iff.1 (List.append_eq_nil_iff.1 heq.symm).2
        exact ne_nil_of_isDigits hw hwhole.1
      obtain ⟨c, cs, hcs⟩ := List.exists_cons_of_ne_nil hne
      refine ⟨c, cs, hcs, isIdentifier_of_isNumeral ho c ?_⟩
      change c ∈ text.toList
      rw [hcs]
      exact List.mem_cons_self
  | «variable» =>
      obtain ⟨c, cs, hcs⟩ := List.exists_cons_of_ne_nil ho.1
      refine ⟨c, cs, hcs, ho.2.1 c ?_⟩
      rw [hcs]
      exact List.mem_cons_self
  | quoted => exact ⟨'"', text.toList ++ ['"'], chars_quoted text, rfl⟩

theorem isIdentifier_of_mem {o : Operand} (ho : o.Expressible) (hkind : o.kind ≠ .quoted) :
    ∀ c ∈ o.chars, isIdentifier c = true := by
  obtain ⟨kind, text⟩ := o
  cases kind with
  | number => exact isIdentifier_of_isNumeral ho
  | «variable» => exact ho.2.1
  | quoted => contradiction

theorem kind_eq_quoted_iff {o other : Operand} (ho : o.Expressible) (hother : other.Expressible)
    {more : List Char} (h : other.chars = o.chars ++ more) :
    other.kind = .quoted ↔ o.kind = .quoted := by
  obtain ⟨c, cs, hc, hhead⟩ := exists_head ho
  obtain ⟨d, ds, hd, hhead'⟩ := exists_head hother
  rw [hc, hd, List.cons_append, List.cons.injEq] at h
  rw [h.1] at hhead'
  by_cases hkind : o.kind = .quoted
  · rw [if_pos hkind] at hhead
    subst hhead
    by_cases hkind' : other.kind = .quoted
    · exact iff_of_true hkind' hkind
    · rw [if_neg hkind'] at hhead'
      contradiction
  · rw [if_neg hkind] at hhead
    by_cases hkind' : other.kind = .quoted
    · rw [if_pos hkind'] at hhead'
      subst hhead'
      contradiction
    · exact iff_of_false hkind' hkind

end Operand

/-- What can follow a numeral in a longer one: a digit, or the first point and a digit after it. -/
theorem isDigit_or_point {numeral xs : List Char} {x : Char} (h : IsNumeral numeral)
    (hlonger : IsNumeral (numeral ++ x :: xs)) :
    x.isDigit = true ∨ x = '.' ∧ '.' ∉ numeral ∧ ¬ Stops Char.isDigit xs := by
  obtain ⟨c, cs, rfl⟩ : ∃ c cs, numeral = c :: cs := by
    obtain ⟨sign, whole, fraction, rfl, -, hw, -⟩ := h
    refine List.exists_cons_of_ne_nil fun hnil => ne_nil_of_isDigits hw ?_
    exact (List.append_eq_nil_iff.1 (List.append_eq_nil_iff.1 hnil).2).1
  obtain ⟨sign, whole, fraction, heq, hs, hw, hf⟩ := hlonger
  have hwhole := all_of_isDigits hw
  have hpoint : '.' ∉ sign ++ whole := by
    intro hmem
    rcases List.mem_append.1 hmem with hmem | hmem
    · rcases hs with rfl | rfl
      · contradiction
      · exact absurd (List.mem_singleton.1 hmem) (by decide)
    · exact absurd (hwhole _ hmem) (by decide)
  have hend (hn : c :: cs = sign ++ whole) (hxs : x :: xs = fraction) :
      x.isDigit = true ∨ x = '.' ∧ '.' ∉ c :: cs ∧ ¬ Stops Char.isDigit xs := by
    rcases hf with rfl | ⟨ds, hds, rfl⟩
    · contradiction
    · cases hxs
      obtain ⟨d, ds, rfl⟩ := List.exists_cons_of_ne_nil (ne_nil_of_isDigits hds)
      refine .inr ⟨rfl, hn ▸ hpoint, fun hstops => ?_⟩
      have hd := all_of_isDigits hds d List.mem_cons_self
      rw [stops_cons.1 hstops] at hd
      contradiction
  -- The numeral ends within the whole part of the longer one, at its end, or behind its point.
  rw [← List.append_assoc] at heq
  rcases List.append_eq_append_iff.1 heq with ⟨as, hn, hxs⟩ | ⟨as, hn, hfraction⟩
  · cases as with
    | nil => exact hend (by rw [hn, List.append_nil]) hxs
    | cons a as =>
        cases hxs
        refine .inl (hwhole x ?_)
        rcases hs with rfl | rfl
        · rw [List.nil_append] at hn
          rw [hn]
          exact List.mem_append_right _ List.mem_cons_self
        · rw [List.singleton_append, List.cons_append, List.cons.injEq] at hn
          rw [hn.2]
          exact List.mem_append_right _ List.mem_cons_self
  · cases as with
    | nil => exact hend (by rw [hn, List.append_nil]) hfraction.symm
    | cons a as =>
        rcases hf with rfl | ⟨ds, hds, rfl⟩
        · contradiction
        · rw [List.cons_append, List.cons.injEq] at hfraction
          refine .inl (all_of_isDigits hds x ?_)
          rw [hfraction.2]
          exact List.mem_append_right _ List.mem_cons_self

namespace Operand

variable {o other : Operand}

/-- Where an operand ends as it should, no operand goes on. -/
theorem not_expressible_longer (ho : o.Expressible) {x : Char} {xs more : List Char}
    (hends : o.EndsAt (x :: (xs ++ more))) (hlonger : other.chars = o.chars ++ x :: xs) :
    ¬ other.Expressible := by
  intro hother
  have hquoted := kind_eq_quoted_iff ho hother hlonger
  have hx : o.kind ≠ .quoted → isIdentifier x = true := by
    intro hkind
    apply isIdentifier_of_mem hother fun h => hkind (hquoted.1 h)
    rw [hlonger]
    exact List.mem_append_right _ List.mem_cons_self
  obtain ⟨kind, text⟩ := o
  obtain ⟨kind', text'⟩ := other
  cases kind with
  | number =>
      cases kind' with
      | number =>
          change text'.toList = text.toList ++ x :: xs at hlonger
          change IsNumeral text'.toList at hother
          rw [hlonger] at hother
          rcases isDigit_or_point ho hother with hdigit | ⟨rfl, hpoint, hdigits⟩
          · rw [stops_cons.1 hends.1] at hdigit
            contradiction
          · exact hdigits (stops_of_append (hends.2 hpoint _ rfl))
      | «variable» =>
          change text'.toList = text.toList ++ x :: xs at hlonger
          have hbegins := hother.2.2
          change BeginsNoNumber text'.toList at hbegins
          rw [hlonger] at hbegins
          exact not_beginsNoNumber_of_isNumeral ho hbegins
      | quoted => exact OperandKind.noConfusion (hquoted.1 rfl)
  | «variable» =>
      have hstops : isIdentifier x = false := stops_cons.1 hends
      rw [hx OperandKind.noConfusion] at hstops
      contradiction
  | quoted =>
      cases hquoted.2 rfl
      rw [chars_quoted, chars_quoted, List.cons_append, List.cons.injEq,
        List.append_assoc] at hlonger
      have hlast := congrArg List.dropLast hlonger.2
      rw [List.dropLast_concat, List.dropLast_append_of_ne_nil (by simp)] at hlast
      apply hother.1
      change '"' ∈ text'.toList
      rw [hlast]
      exact List.mem_append_right _ (by simp)

/-- An operand that ends as it should is the longest there is. -/
theorem leads_of_endsAt (ho : o.Expressible) (hends : o.EndsAt rest) :
    o.Leads (o.chars ++ rest) := by
  refine ⟨ho, List.prefix_append _ _, fun other hother hbegins => ?_⟩
  obtain ⟨more, heq⟩ := hbegins
  rcases List.append_eq_append_iff.1 heq with ⟨as, h, -⟩ | ⟨as, h, hrest⟩
  · rw [h, List.length_append]
    exact Nat.le_add_right _ _
  · cases as with
    | nil =>
        rw [List.append_nil] at h
        exact Nat.le_of_eq (congrArg List.length h)
    | cons x xs =>
        rw [hrest] at hends
        exact absurd hother (not_expressible_longer ho hends h)

/-- The source of an operand tells its kind and its text. -/
theorem eq_of_chars (ho : o.Expressible) (hother : other.Expressible)
    (h : o.chars = other.chars) : o = other := by
  have hquoted : o.kind = .quoted ↔ other.kind = .quoted :=
    kind_eq_quoted_iff hother ho (by rw [h, List.append_nil])
  have hword {n w : String} (hn : Expressible ⟨.number, n⟩) (hw : Expressible ⟨.variable, w⟩) :
      n.toList ≠ w.toList := by
    intro heq
    have hbegins : ¬ BeginsNoNumber (n.toList ++ []) := not_beginsNoNumber_of_isNumeral hn
    rw [List.append_nil, heq] at hbegins
    exact hbegins hw.2.2
  obtain ⟨kind, text⟩ := o
  obtain ⟨kind', text'⟩ := other
  cases kind with
  | number =>
      cases kind' with
      | number => exact congrArg _ (String.toList_injective h)
      | «variable» => exact absurd h (hword ho hother)
      | quoted => exact OperandKind.noConfusion (hquoted.2 rfl)
  | «variable» =>
      cases kind' with
      | number => exact absurd h.symm (hword hother ho)
      | «variable» => exact congrArg _ (String.toList_injective h)
      | quoted => exact OperandKind.noConfusion (hquoted.2 rfl)
  | quoted =>
      cases hquoted.1 rfl
      rw [chars_quoted, chars_quoted, List.cons.injEq, List.append_cancel_right_eq] at h
      exact congrArg _ (String.toList_injective h.2)

theorem Leads.unique {cs : List Char} (h : o.Leads cs) (h' : other.Leads cs) : o = other := by
  refine eq_of_chars h.expressible h'.expressible ?_
  have hle := h'.longest o h.expressible h.begins
  have hge := h.longest other h'.expressible h'.begins
  have hprefix := List.prefix_of_prefix_length_le h.begins h'.begins hle
  exact hprefix.eq_of_length_le hge

/-- No operand can be written where none begins. -/
theorem not_leads_of_nothing {cs : List Char} (hquote : Stops (· == '"') cs)
    (hword : Stops isIdentifier cs) : ¬ o.Leads cs := by
  intro h
  obtain ⟨c, r, hc, hhead⟩ := exists_head h.expressible
  obtain ⟨more, rfl⟩ := h.begins
  rw [hc, List.cons_append, stops_cons] at hquote hword
  split at hhead
  · subst hhead
    contradiction
  · rw [hword] at hhead
    contradiction

/-- No operand can be written where a quote is not closed. -/
theorem not_leads_of_unclosed {content : List Char} (hc : IsContent content)
    (hrest : Stops isQuotable rest) (hquote : Stops (· == '"') rest) :
    ¬ o.Leads ('"' :: (content ++ rest)) := by
  intro h
  obtain ⟨c, cs, hhead, hkind⟩ := exists_head h.expressible
  obtain ⟨more, heq⟩ := h.begins
  have hexpressible := h.expressible
  obtain ⟨kind, text⟩ := o
  rw [hhead, List.cons_append, List.cons.injEq] at heq
  rw [heq.1] at hkind
  cases kind with
  | number =>
      rw [if_neg OperandKind.noConfusion] at hkind
      contradiction
  | «variable» =>
      rw [if_neg OperandKind.noConfusion] at hkind
      contradiction
  | quoted =>
      rw [chars_quoted, List.cons.injEq] at hhead
      rw [← hhead.2, List.append_assoc, List.singleton_append] at heq
      -- The closing quote would have to stand in the content or right behind it.
      rcases List.append_eq_append_iff.1 heq.2 with ⟨as, hcontent, htail⟩ | ⟨as, htext, htail⟩
      · cases as with
        | nil =>
            rw [List.nil_append] at htail
            rw [← htail] at hquote
            exact absurd (stops_cons.1 hquote) (by decide)
        | cons a as =>
            cases htail
            apply hc.1
            rw [hcontent]
            exact List.mem_append_right _ List.mem_cons_self
      · cases as with
        | nil =>
            rw [List.nil_append] at htail
            rw [htail] at hquote
            exact absurd (stops_cons.1 hquote) (by decide)
        | cons a as =>
            have ha : isQuotable a = true := by
              apply isContent_iff.1 hexpressible
              change a ∈ text.toList
              rw [htext]
              exact List.mem_append_right _ List.mem_cons_self
            rw [htail, List.cons_append, stops_cons, ha] at hrest
            contradiction

/-- The longest operand is one that ends as it should. -/
theorem endsAt_of_leads (h : o.Leads (o.chars ++ rest)) : o.EndsAt rest := by
  cases hfront : front (o.chars ++ rest) with
  | operand found gap tail heq hfound hstops hends =>
      rw [List.append_assoc] at heq
      have hleads := leads_of_endsAt hfound hends
      rw [← heq] at hleads
      obtain rfl := h.unique hleads
      rw [List.append_cancel_left_eq] at heq
      rw [heq]
      exact hends
  | unclosed content tail heq hc hstops hquote =>
      rw [heq] at h
      exact absurd h (not_leads_of_unclosed hc hstops hquote)
  | nothing hquote hword => exact absurd h (not_leads_of_nothing hquote hword)

end Operand

end AlertPolicy.Expr
