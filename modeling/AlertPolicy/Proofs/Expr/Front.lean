import AlertPolicy.Proofs.Expr.Symbols

/-!
How a text begins, read from the left with the longest match at each piece: with an operand, with a
quote that nothing closes, or with neither. An operand that is cut off there can be read.
-/

namespace AlertPolicy.Expr

open AlertPolicy.Number

variable {cs rest : List Char}

/-- How a text begins, as far as operands are concerned. -/
inductive Front (cs : List Char) : Prop where
  | operand (o : Operand) (gap : Blanks) (rest : List Char)
      (eq : cs = o.chars ++ gap.chars ++ rest) (expressible : o.Expressible)
      (stops : Stops isGap rest) (ends : o.EndsAt (gap.chars ++ rest))
  | unclosed (content rest : List Char) (eq : cs = '"' :: (content ++ rest))
      (isContent : IsContent content) (stops : Stops isQuotable rest)
      (notClosed : Stops (· == '"') rest)
  | nothing (noQuote : Stops (· == '"') cs) (noWord : Stops isIdentifier cs)

/-- The longest unsigned numeral at the front of a text that begins with a digit. -/
theorem exists_unsigned (hcs : ¬ Stops Char.isDigit cs) :
    ∃ whole fraction rest, cs = whole ++ (fraction ++ rest) ∧ isDigits whole ∧
      (fraction = [] ∨ ∃ ds, isDigits ds ∧ fraction = '.' :: ds) ∧
      EndsNumeral (whole ++ fraction) rest := by
  obtain ⟨whole, tail, rfl, hwhole, htail⟩ := exists_cut Char.isDigit cs
  have hdigits : isDigits whole := by
    refine isDigits_of_all ?_ hwhole
    rintro rfl
    exact hcs htail
  by_cases hpoint : ∃ r, tail = '.' :: r ∧ ¬ Stops Char.isDigit r
  · obtain ⟨r, rfl, hr⟩ := hpoint
    obtain ⟨ds, rest, rfl, hds, hrest⟩ := exists_cut Char.isDigit r
    have hne : ds ≠ [] := by
      rintro rfl
      exact hr hrest
    refine ⟨whole, '.' :: ds, rest, rfl, hdigits, .inr ⟨ds, isDigits_of_all hne hds, rfl⟩,
      hrest, ?_⟩
    intro h
    exact absurd (List.mem_append_right whole List.mem_cons_self) h
  · refine ⟨whole, [], tail, rfl, hdigits, .inl rfl, htail, ?_⟩
    intro _ r hr
    exact Classical.not_not.1 fun h => hpoint ⟨r, hr, h⟩

theorem exists_numeral (hcs : ¬ BeginsNoNumber cs) :
    ∃ numeral rest, cs = numeral ++ rest ∧ IsNumeral numeral ∧ EndsNumeral numeral rest := by
  by_cases hdigit : Stops Char.isDigit cs
  · obtain ⟨r, rfl, hr⟩ : ∃ r, cs = '-' :: r ∧ ¬ Stops Char.isDigit r := by
      have h : ¬ ∀ r, cs = '-' :: r → Stops Char.isDigit r := fun h => hcs ⟨hdigit, h⟩
      simpa only [Classical.not_forall, exists_prop] using h
    obtain ⟨whole, fraction, rest, rfl, hw, hf, hends⟩ := exists_unsigned hr
    refine ⟨'-' :: (whole ++ fraction), rest, by simp, ?_, hends.1, ?_⟩
    · exact ⟨['-'], whole, fraction, rfl, .inr rfl, hw, hf⟩
    · intro h
      exact hends.2 fun hmem => h (List.mem_cons_of_mem _ hmem)
  · obtain ⟨whole, fraction, rest, rfl, hw, hf, hends⟩ := exists_unsigned hdigit
    exact ⟨whole ++ fraction, rest, by simp, ⟨[], whole, fraction, rfl, .inl rfl, hw, hf⟩, hends⟩

theorem exists_blanks (cs : List Char) :
    ∃ (gap : Blanks) (rest : List Char), cs = gap.chars ++ rest ∧ Stops isGap rest := by
  obtain ⟨gap, rest, h, hgap, hrest⟩ := exists_cut isGap cs
  exact ⟨⟨gap, hgap⟩, rest, h, hrest⟩

theorem isWord_of_append {word : List Char} (hne : word ≠ [])
    (hw : ∀ c ∈ word, isIdentifier c = true) (h : BeginsNoNumber (word ++ rest)) : IsWord word := by
  refine ⟨hne, hw, stops_of_append h.1, ?_⟩
  rintro r rfl
  exact stops_of_append (h.2 (r ++ rest) rfl)

theorem front_quote (cs : List Char) : Front ('"' :: cs) := by
  obtain ⟨content, tail, rfl, hcontent, htail⟩ := exists_cut isQuotable cs
  have hcontent := isContent_iff.2 hcontent
  by_cases hquote : Stops (· == '"') tail
  · exact .unclosed content tail rfl hcontent htail hquote
  · obtain ⟨after, rfl⟩ := exists_cons_of_not_stops hquote
    obtain ⟨gap, rest, rfl, hrest⟩ := exists_blanks after
    refine .operand ⟨.quoted, String.ofList content⟩ gap rest ?_ ?_ hrest trivial
    · simp [Operand.chars_quoted]
    · simpa [Operand.Expressible] using hcontent

/-- Every text begins in one of these ways. -/
theorem front (cs : List Char) : Front cs := by
  by_cases hnumber : BeginsNoNumber cs
  · by_cases hquote : Stops (· == '"') cs
    · obtain ⟨word, tail, rfl, hword, htail⟩ := exists_cut isIdentifier cs
      by_cases hne : word = []
      · subst hne
        exact .nothing hquote htail
      · obtain ⟨gap, rest, rfl, hrest⟩ := exists_blanks tail
        refine .operand ⟨.variable, String.ofList word⟩ gap rest ?_ ?_ hrest htail
        · simp [Operand.chars_variable]
        · simpa [Operand.Expressible] using isWord_of_append hne hword hnumber
    · obtain ⟨r, rfl⟩ := exists_cons_of_not_stops hquote
      exact front_quote r
  · obtain ⟨numeral, tail, rfl, hn, hends⟩ := exists_numeral hnumber
    obtain ⟨gap, rest, rfl, hrest⟩ := exists_blanks tail
    refine .operand ⟨.number, String.ofList numeral⟩ gap rest ?_ ?_ hrest ?_
    · simp [Operand.chars_number]
    · simpa [Operand.Expressible] using hn
    · simpa [Operand.EndsAt] using hends

end AlertPolicy.Expr
