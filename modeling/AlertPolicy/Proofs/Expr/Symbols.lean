import AlertPolicy.Proofs.Expr.Attempt
import AlertPolicy.Proofs.Expr.Spelling

/-!
Attempts to read an operand. One that ends where it should is read whichever alternative it takes;
a quote that nothing closes is the farthest obstacle; and where neither a quote nor an identifier
character stands, the symbol is what was expected.
-/

namespace AlertPolicy.Expr

open AlertPolicy.Number AlertPolicy.Text Cursor

variable {n : Nat} {cs xs rest gap : List Char}

theorem isIdentifier_of_isDigit {c : Char} (h : c.isDigit = true) : isIdentifier c = true := by
  simp [isIdentifier, Char.isAlphanum, h]

theorem skipSign_past {sign ds : List Char} (hs : sign = [] ∨ sign = ['-']) (hd : isDigits ds) :
    skipSign (past n xs (sign ++ (ds ++ rest))) = past n (xs ++ sign) (ds ++ rest) := by
  rcases hs with rfl | rfl
  · have hminus : Stops (· == '-') (ds ++ rest) := by
      obtain ⟨d, ds, rfl⟩ := List.exists_cons_of_ne_nil (ne_nil_of_isDigits hd)
      have hdigit : d.isDigit = true := all_of_isDigits hd d (by simp)
      have hne : d ≠ '-' := by
        rintro rfl
        exact absurd hdigit (by decide)
      simpa [stops_cons] using hne
    rw [List.nil_append, List.append_nil, skipSign, skip?_past_of_stops n hminus]
    rfl
  · rw [List.singleton_append, skipSign, skip?_past]
    rfl

theorem skipFraction_point {ds : List Char} (hd : isDigits ds) (hrest : Stops Char.isDigit rest) :
    skipFraction (past n xs ('.' :: (ds ++ rest))) = past n (xs ++ '.' :: ds) rest := by
  have hdigits : skipWhile Char.isDigit (past n (xs ++ ['.']) (ds ++ rest)) =
      past n (xs ++ ['.'] ++ ds) rest := skipWhile_past n (all_of_isDigits hd) hrest
  simp only [skipFraction, skip?_past, hdigits]
  rw [if_neg (offset_past_ne n (ne_nil_of_isDigits hd)), List.append_assoc, List.singleton_append]

theorem skipFraction_past (h : ∀ r, rest = '.' :: r → Stops Char.isDigit r) :
    skipFraction (past n xs rest) = past n xs rest := by
  by_cases hpoint : Stops (· == '.') rest
  · simp only [skipFraction, skip?_past_of_stops n hpoint]
  · obtain ⟨r, rfl⟩ := exists_cons_of_not_stops hpoint
    have hnone : skipWhile Char.isDigit (past n (xs ++ ['.']) r) = past n (xs ++ ['.']) r :=
      skipWhile_past_of_stops n (h r rfl)
    simp only [skipFraction, skip?_past, hnone, if_true]

/-- No longer numeral begins here: no digit follows, nor a point and a digit after whole digits. -/
def EndsNumeral (numeral rest : List Char) : Prop :=
  Stops Char.isDigit rest ∧ ('.' ∉ numeral → ∀ r, rest = '.' :: r → Stops Char.isDigit r)

theorem endsNumeral_of_stops {numeral : List Char} (h : Stops isIdentifier rest) :
    EndsNumeral numeral rest := by
  refine ⟨h.mono fun c => isIdentifier_of_isDigit, ?_⟩
  rintro - r rfl
  exact absurd (stops_cons.1 h) (by decide)

theorem readNumber_numeral {numeral : List Char} (hn : IsNumeral numeral)
    (hrest : EndsNumeral numeral rest) :
    readNumber (past n [] (numeral ++ rest)) =
      pure (.number ⟨n, numeral⟩, past n numeral rest) := by
  obtain ⟨sign, whole, fraction, rfl, hs, hw, hf⟩ := hn
  have hsign : skipSign (past n [] (sign ++ (whole ++ (fraction ++ rest)))) =
      past n sign (whole ++ (fraction ++ rest)) := skipSign_past hs hw
  have hstop : Stops Char.isDigit (fraction ++ rest) := by
    rcases hf with rfl | ⟨ds, -, rfl⟩
    · exact hrest.1
    · exact stops_cons.2 (by decide)
  have hwhole : skipWhile Char.isDigit (past n sign (whole ++ (fraction ++ rest))) =
      past n (sign ++ whole) (fraction ++ rest) := skipWhile_past n (all_of_isDigits hw) hstop
  have hfraction : skipFraction (past n (sign ++ whole) (fraction ++ rest)) =
      past n (sign ++ whole ++ fraction) rest := by
    rcases hf with rfl | ⟨ds, hds, rfl⟩
    · rw [List.nil_append, List.append_nil]
      have hwhole' : '.' ∉ whole := fun h => absurd (all_of_isDigits hw _ h) (by decide)
      apply skipFraction_past
      apply hrest.2
      rcases hs with rfl | rfl <;> simpa using hwhole'
    · exact skipFraction_point hds hrest.1
  have hspan : spanTo (past n [] (sign ++ (whole ++ fraction) ++ rest))
      (past n (sign ++ (whole ++ fraction)) rest) = ⟨n, sign ++ (whole ++ fraction)⟩ :=
    spanTo_past n
  simp only [List.append_assoc] at hfraction hspan ⊢
  simp only [readNumber, hsign, hwhole, hfraction, hspan]
  rw [if_neg (offset_past_ne n (ne_nil_of_isDigits hw))]

/-- Where no number begins, a minus sign is all that is passed before the attempt fails. -/
theorem readNumber_failsWithin {after : Nat} (h : BeginsNoNumber cs) (hn : n ≤ after)
    (hminus : ∀ r, cs = '-' :: r → (past n ['-'] r).offset ≤ after) :
    FailsWithin (readNumber (past n [] cs)) n after := by
  by_cases hsign : Stops (· == '-') cs
  · have hsigned : skipSign (past n [] cs) = past n [] cs := by
      rw [skipSign, skip?_past_of_stops n hsign]
      rfl
    have hwhole : skipWhile Char.isDigit (past n [] cs) = past n [] cs :=
      skipWhile_past_of_stops n h.1
    simp only [readNumber, hsigned, hwhole, if_true]
    exact failsWithin_missing hn hn
  · obtain ⟨r, rfl⟩ := exists_cons_of_not_stops hsign
    have hsigned : skipSign (past n [] ('-' :: r)) = past n ['-'] r := by
      rw [skipSign, skip?_past]
      rfl
    have hwhole : skipWhile Char.isDigit (past n ['-'] r) = past n ['-'] r :=
      skipWhile_past_of_stops n (h.2 r rfl)
    simp only [readNumber, hsigned, hwhole, if_true]
    exact failsWithin_missing (hminus r rfl) hn

theorem readString_of_stops (h : Stops (· == '"') cs) :
    readString (past n [] cs) = missing .string (past n [] cs) := by
  simp only [readString, skip?_past_of_stops n h]

theorem readString_closed {content : List Char} (hc : ∀ c ∈ content, isQuotable c = true)
    (hg : ∀ c ∈ gap, isGap c = true) (hrest : Stops isGap rest) :
    readString (past n [] ('"' :: (content ++ '"' :: (gap ++ rest)))) =
      pure (.string ⟨n, '"' :: (content ++ '"' :: gap)⟩ ⟨n + 1, content⟩,
        past n ('"' :: (content ++ '"' :: gap)) rest) := by
  have hcontent : skipWhile isQuotable (past n ['"'] (content ++ '"' :: (gap ++ rest))) =
      past n (['"'] ++ content) ('"' :: (gap ++ rest)) :=
    skipWhile_past n hc (stops_cons.2 (by decide))
  have hgap : skipGap (past n (['"'] ++ content ++ ['"']) (gap ++ rest)) =
      past n (['"'] ++ content ++ ['"'] ++ gap) rest := skipWhile_past n hg hrest
  have hwhole : spanTo (past n [] (['"'] ++ content ++ ['"'] ++ gap ++ rest))
      (past n ([] ++ (['"'] ++ content ++ ['"'] ++ gap)) rest) =
        ⟨n + byteLength [], ['"'] ++ content ++ ['"'] ++ gap⟩ := spanTo_past n
  have hinside : spanTo (past n ['"'] (content ++ '"' :: (gap ++ rest)))
      (past n (['"'] ++ content) ('"' :: (gap ++ rest))) = ⟨n + byteLength ['"'], content⟩ :=
    spanTo_past n
  simp only [List.nil_append, List.append_assoc, List.cons_append] at hcontent hgap hwhole hinside
  simp only [readString, skip?_past, hcontent, List.nil_append, List.cons_append, hgap, hwhole,
    hinside]
  rfl

theorem readString_unclosed {content : List Char} (hc : ∀ c ∈ content, isQuotable c = true)
    (hrest : Stops isQuotable rest) (hquote : Stops (· == '"') rest) :
    readString (past n [] ('"' :: (content ++ rest))) =
      missing .string (past n ('"' :: content) rest) := by
  have hcontent : skipWhile isQuotable (past n ['"'] (content ++ rest)) =
      past n (['"'] ++ content) rest := skipWhile_past n hc hrest
  simp only [readString, skip?_past, List.nil_append, hcontent, skip?_past_of_stops n hquote,
    List.singleton_append]

theorem readVariable_word {word : List Char} (hne : word ≠ [])
    (hw : ∀ c ∈ word, isIdentifier c = true) (hrest : Stops isIdentifier rest) :
    readVariable (past n [] (word ++ rest)) =
      pure (.variable ⟨n, word⟩, past n word rest) := by
  have hword : skipWhile isIdentifier (past n [] (word ++ rest)) = past n ([] ++ word) rest :=
    skipWhile_past n hw hrest
  have hspan : spanTo (past n [] (word ++ rest)) (past n ([] ++ word) rest) = ⟨n, word⟩ :=
    spanTo_past n
  simp only [readVariable, hword, hspan]
  rw [if_neg (offset_past_ne n hne)]
  rfl

theorem readVariable_of_stops (h : Stops isIdentifier cs) :
    readVariable (past n [] cs) = missing .variable (past n [] cs) := by
  have hnone : skipWhile isIdentifier (past n [] cs) = past n [] cs := skipWhile_past_of_stops n h
  simp only [readVariable, hnone, if_true]

namespace Operand

/-- No longer operand of the kind begins where this one does. -/
def EndsAt (o : Operand) (rest : List Char) : Prop :=
  match o.kind with
  | .number => EndsNumeral o.text.toList rest
  | .variable => Stops isIdentifier rest
  | .quoted => True

theorem endsAt_of_stops (o : Operand) (h : Stops isIdentifier rest) : o.EndsAt rest := by
  obtain ⟨kind, text⟩ := o
  cases kind with
  | number => exact endsNumeral_of_stops h
  | «variable» => exact h
  | quoted => trivial

end Operand

theorem beginsNoNumber_append {word : List Char} (hne : word ≠ []) (h : BeginsNoNumber word)
    (hrest : Stops Char.isDigit rest) : BeginsNoNumber (word ++ rest) := by
  obtain ⟨c, cs, rfl⟩ := List.exists_cons_of_ne_nil hne
  refine ⟨stops_cons.2 (stops_cons.1 h.1), ?_⟩
  rintro r hr
  obtain ⟨rfl, rfl⟩ := List.cons.inj hr
  exact stops_append (h.2 cs rfl) hrest

theorem stops_quote_of_isIdentifier {c : Char} (h : isIdentifier c = true) :
    Stops (· == '"') (c :: cs) := by
  rw [stops_cons]
  cases hc : c == '"' with
  | false => rfl
  | true =>
      cases eq_of_beq hc
      exact absurd h (by decide)

/-- A text that begins with a quote begins with no number. -/
theorem beginsNoNumber_quote : BeginsNoNumber ('"' :: cs) :=
  ⟨stops_cons.2 (by decide), fun _ h => absurd (List.cons.inj h).1 (by decide)⟩

theorem failsWithin_readNumber_quote :
    FailsWithin (readNumber (past n [] ('"' :: cs))) n n :=
  readNumber_failsWithin beginsNoNumber_quote (Nat.le_refl n)
    fun _ h => absurd (List.cons.inj h).1 (by decide)

theorem succeeds_readOperand_numeral {numeral : List Char} (hn : IsNumeral numeral)
    (hrest : EndsNumeral numeral rest) :
    Succeeds (readOperand (past n [] (numeral ++ rest))) n (.number ⟨n, numeral⟩)
      (past n numeral rest) := by
  rw [readOperand, readNumber_numeral hn hrest]
  exact (succeeds_pure (le_offset_past n)).orElse

theorem succeeds_readOperand_word {word : List Char} (hw : IsWord word)
    (hrest : Stops isIdentifier rest) :
    Succeeds (readOperand (past n [] (word ++ rest))) n (.variable ⟨n, word⟩)
      (past n word rest) := by
  obtain ⟨hne, hword, hbegins⟩ := hw
  obtain ⟨c, cs, rfl⟩ := List.exists_cons_of_ne_nil hne
  have hquote : Stops (· == '"') (c :: cs ++ rest) :=
    stops_quote_of_isIdentifier (hword c (by simp))
  have hbegins : BeginsNoNumber (c :: cs ++ rest) :=
    beginsNoNumber_append hne hbegins (hrest.mono fun c => isIdentifier_of_isDigit)
  have hnumber : FailsWithin (readNumber (past n [] (c :: cs ++ rest))) n
      (past n (c :: cs) rest).offset := by
    refine readNumber_failsWithin hbegins (le_offset_past n) ?_
    intro r hr
    obtain ⟨rfl, -⟩ := List.cons.inj hr
    change (past n ['-'] r).offset ≤ (past n (['-'] ++ cs) rest).offset
    exact offset_past_le n
  have hstring : FailsWithin (missing .string (past n [] (c :: cs ++ rest)) :
      Attempt (OperandTree × Cursor)) (past n (c :: cs) rest).offset
        (past n (c :: cs) rest).offset :=
    failsWithin_missing (le_offset_past n) (Nat.le_refl _)
  rw [readOperand, readString_of_stops hquote, readVariable_word hne hword hrest]
  exact hnumber.orElse_succeeds (hstring.orElse_succeeds (succeeds_pure (Nat.le_refl _)).orElse)

theorem succeeds_readOperand_quoted {content : List Char} (hc : IsContent content)
    (hg : ∀ c ∈ gap, isGap c = true) (hrest : Stops isGap rest) :
    Succeeds (readOperand (past n [] ('"' :: (content ++ '"' :: (gap ++ rest))))) n
      (.string ⟨n, '"' :: (content ++ '"' :: gap)⟩ ⟨n + 1, content⟩)
      (past n ('"' :: (content ++ '"' :: gap)) rest) := by
  rw [readOperand, readString_closed (isContent_iff.1 hc) hg hrest]
  exact failsWithin_readNumber_quote.orElse_succeeds (succeeds_pure (le_offset_past n)).orElse

theorem Succeeds.symbol {chars : List Char} {operand : OperandTree} {stop : Cursor}
    (h : Succeeds (readOperand (past n [] (chars ++ rest))) n operand stop)
    (hgap : skipGap stop = past n chars rest) (hle : stop.offset ≤ (past n chars rest).offset) :
    Succeeds (readSymbol (past n [] (chars ++ rest))) n ⟨⟨n, chars⟩, operand⟩
      (past n chars rest) := by
  have hspan : spanTo (past n [] (chars ++ rest)) (past n ([] ++ chars) rest) = ⟨n, chars⟩ :=
    spanTo_past n
  refine h.bind ?_
  simp only [hgap, ← hspan]
  exact succeeds_pure hle

/-- An operand that ends where it should is read, with the blanks after it. -/
theorem succeeds_readSymbol {o : Operand} (ho : o.Expressible)
    (hg : ∀ c ∈ gap, isGap c = true) (hrest : Stops isGap rest) (hends : o.EndsAt (gap ++ rest)) :
    Succeeds (readSymbol (past n [] (o.chars ++ gap ++ rest))) n (o.symbolAt n gap)
      (past n (o.chars ++ gap) rest) := by
  obtain ⟨kind, text⟩ := o
  have hgap : skipGap (past n text.toList (gap ++ rest)) = past n (text.toList ++ gap) rest :=
    skipWhile_past n hg hrest
  cases kind with
  | number =>
      refine Succeeds.symbol ?_ hgap (offset_past_le n)
      rw [List.append_assoc]
      exact succeeds_readOperand_numeral ho hends
  | «variable» =>
      refine Succeeds.symbol ?_ hgap (offset_past_le n)
      rw [List.append_assoc]
      exact succeeds_readOperand_word ho hends
  | quoted =>
      have hchars : Operand.chars ⟨.quoted, text⟩ ++ gap =
          '"' :: (text.toList ++ '"' :: gap) := by simp [Operand.chars_quoted]
      simp only [Operand.symbolAt, hchars]
      refine Succeeds.symbol ?_ (skipWhile_past_of_stops n hrest) (Nat.le_refl _)
      rw [List.cons_append, List.append_assoc, List.cons_append]
      exact succeeds_readOperand_quoted ho hg hrest

/-- Where no operand begins, none is found there. -/
theorem failsAt_readSymbol (hquote : Stops (· == '"') cs) (hword : Stops isIdentifier cs) :
    FailsAt (readSymbol (past n [] cs)) n ⟨past n [] cs, .symbol⟩ := by
  have hbegins : BeginsNoNumber cs := by
    refine ⟨hword.mono fun c => isIdentifier_of_isDigit, ?_⟩
    rintro r rfl
    exact absurd (stops_cons.1 hword) (by decide)
  have hnumber : FailsWithin (readNumber (past n [] cs)) n n := by
    refine readNumber_failsWithin hbegins (Nat.le_refl n) ?_
    rintro r rfl
    exact absurd (stops_cons.1 hword) (by decide)
  have hmissing (expected : Production) : FailsWithin (missing expected (past n [] cs) :
      Attempt (OperandTree × Cursor)) n n := failsWithin_missing (Nat.le_refl n) (Nat.le_refl n)
  refine FailsAt.bind ?_
  rw [readOperand, readString_of_stops hquote, readVariable_of_stops hword]
  exact hnumber.orElse_failsAt ((hmissing .string).orElse_failsAt
    ((hmissing .variable).orElse_failsAt (failsAt_missing (Nat.le_refl n))))

/-- A quote that nothing closes is the obstacle, at the character that cannot stand behind it. -/
theorem failsAt_readSymbol_unclosed {content : List Char} (hc : IsContent content)
    (hrest : Stops isQuotable rest) (hquote : Stops (· == '"') rest) :
    FailsAt (readSymbol (past n [] ('"' :: (content ++ rest)))) n
      ⟨past n ('"' :: content) rest, .string⟩ := by
  have hword : Stops isIdentifier ('"' :: (content ++ rest)) := stops_cons.2 (by decide)
  have hlt : (past n [] ('"' :: (content ++ rest))).offset <
      (past n ([] ++ '"' :: content) rest).offset := offset_past_lt n (List.cons_ne_nil _ _)
  refine FailsAt.bind ?_
  rw [readOperand, readString_unclosed (isContent_iff.1 hc) hrest hquote,
    readVariable_of_stops hword]
  refine failsWithin_readNumber_quote.orElse_failsAt ?_
  refine (failsAt_missing (le_offset_past n)).orElse ?_
  rw [runFrom_orElse, runFrom_missing_of_lt hlt]
  exact runFrom_missing_of_lt hlt

end AlertPolicy.Expr
