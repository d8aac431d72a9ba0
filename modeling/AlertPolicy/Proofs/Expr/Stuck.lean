import AlertPolicy.Proofs.Expr.Longest

/-!
Where reading gets stuck. A text is read from the left, each piece as long as it can be and with all
blanks after it, up to the first place where what is expected does not stand. Every text that is no
expression has one such place, and its error tells that place and what was expected there.
-/

namespace AlertPolicy.Expr

open AlertPolicy.Text Cursor

/-- What is expected when the characters `before` have been read and `rest` is left: a first
operand, an operator, a second operand, or the end. -/
inductive Expects : Production → List Char → List Char → Prop where
  | start (gap : Blanks) {rest : List Char} (stops : Stops isGap rest) :
      Expects .condition gap.chars rest
  | left {before rest : List Char} {o : Operand} {gap : Blanks}
      (h : Expects .condition before (o.chars ++ (gap.chars ++ rest)))
      (leads : o.Leads (o.chars ++ (gap.chars ++ rest))) (stops : Stops isGap rest) :
      Expects .operator (before ++ (o.chars ++ gap.chars)) rest
  | sign {before rest : List Char} {op : Operator} {gap : Blanks}
      (h : Expects .operator before (op.chars ++ (gap.chars ++ rest)))
      (leads : op.Leads (op.chars ++ (gap.chars ++ rest))) (stops : Stops isGap rest) :
      Expects .symbol (before ++ (op.chars ++ gap.chars)) rest
  | right {before rest : List Char} {o : Operand} {gap : Blanks}
      (h : Expects .symbol before (o.chars ++ (gap.chars ++ rest)))
      (leads : o.Leads (o.chars ++ (gap.chars ++ rest))) (stops : Stops isGap rest) :
      Expects .endOfInput (before ++ (o.chars ++ gap.chars)) rest

/-- What is expected does not begin here. An operand begins with a quote or with a character of
identifiers. -/
def Lacks : Production → List Char → Prop
  | .condition, rest | .symbol, rest => Stops (· == '"') rest ∧ Stops isIdentifier rest
  | .operator, rest => ∀ op : Operator, ¬ op.chars <+: rest
  | .endOfInput, rest => rest ≠ []
  | _, _ => False

/-- Reading gets stuck behind the characters `before`, for want of what was expected there or in an
operand whose quote is not closed. -/
inductive Stuck : Production → List Char → List Char → Prop where
  | missing {expected : Production} {before rest : List Char} (h : Expects expected before rest)
      (lacks : Lacks expected rest) : Stuck expected before rest
  | unclosed {side : Production} {before content rest : List Char}
      (h : Expects side before ('"' :: (content ++ rest)))
      (hside : side = .condition ∨ side = .symbol)
      (isContent : IsContent content) (stops : ∀ c ∈ rest.head?, c = '\n' ∨ c = '\\') :
      Stuck .string (before ++ '"' :: content) rest

variable {before rest : List Char} {expected side : Production}

theorem stops_isQuotable_iff :
    Stops isQuotable rest ∧ Stops (· == '"') rest ↔ ∀ c ∈ rest.head?, c = '\n' ∨ c = '\\' := by
  cases rest with
  | nil => simp [Stops]
  | cons c r =>
      simp only [stops_cons, List.head?_cons, Option.mem_def, Option.some.injEq, forall_eq',
        isQuotable, Bool.and_eq_false_iff, bne_eq_false_iff_eq, beq_eq_false_iff_ne]
      constructor
      · rintro ⟨(h | h) | h, hquote⟩
        · exact absurd h hquote
        · exact .inl h
        · exact .inr h
      · rintro (rfl | rfl) <;> decide

/-! ### Every text -/

/-- Where an operand is expected there is one, or reading is stuck. -/
theorem Expects.operand_or_stuck (h : Expects side before rest)
    (hside : side = .condition ∨ side = .symbol) :
    (∃ (o : Operand) (gap : Blanks) (tail : List Char), rest = o.chars ++ (gap.chars ++ tail) ∧
      o.Leads (o.chars ++ (gap.chars ++ tail)) ∧ Stops isGap tail) ∨
    ∃ expected more tail, rest = more ++ tail ∧ Stuck expected (before ++ more) tail := by
  cases front rest with
  | operand o gap tail heq ho hstops hends =>
      rw [List.append_assoc] at heq
      exact .inl ⟨o, gap, tail, heq, Operand.leads_of_endsAt ho hends, hstops⟩
  | unclosed content tail heq hc hstops hquote =>
      subst heq
      exact .inr ⟨.string, '"' :: content, tail, rfl,
        .unclosed h hside hc (stops_isQuotable_iff.1 ⟨hstops, hquote⟩)⟩
  | nothing hquote hword =>
      refine .inr ⟨side, [], rest, rfl, ?_⟩
      rw [List.append_nil]
      rcases hside with rfl | rfl <;> exact .missing h ⟨hquote, hword⟩

/-- A text can be read to its end, or reading it gets stuck. -/
theorem expects_end_or_stuck (cs : List Char) :
    Expects .endOfInput cs [] ∨ ∃ expected before rest, cs = before ++ rest ∧
      Stuck expected before rest := by
  have hstuck {before rest : List Char} (hcs : cs = before ++ rest)
      (h : ∃ expected more tail, rest = more ++ tail ∧ Stuck expected (before ++ more) tail) :
      ∃ expected before rest, cs = before ++ rest ∧ Stuck expected before rest := by
    obtain ⟨expected, more, tail, rfl, h⟩ := h
    exact ⟨expected, before ++ more, tail, by rw [hcs, List.append_assoc], h⟩
  obtain ⟨start, rest₁, hcs, hrest₁⟩ := exists_blanks cs
  have hstart := Expects.start start hrest₁
  rcases hstart.operand_or_stuck (.inl rfl) with ⟨l, gl, rest₂, rfl, hl, hrest₂⟩ | h
  · have hleft := hstart.left hl hrest₂
    rw [← List.append_assoc, ← List.append_assoc, List.append_assoc start.chars] at hcs
    cases hread : Operator.read? rest₂ with
    | none => exact .inr ⟨_, _, _, hcs, .missing hleft (Operator.read?_eq_none.1 hread)⟩
    | some found =>
        obtain ⟨op, tail⟩ := found
        have hop := Operator.leads_of_read? hread
        obtain ⟨gr, rest₃, rfl, hrest₃⟩ := exists_blanks tail
        obtain rfl := Operator.eq_append_of_read? hread
        have hsign := hleft.sign hop hrest₃
        rw [← List.append_assoc op.chars, ← List.append_assoc] at hcs
        rcases hsign.operand_or_stuck (.inr rfl) with ⟨r, ga, rest₄, rfl, hr, hrest₄⟩ | h
        · have hright := hsign.right hr hrest₄
          rw [← List.append_assoc r.chars, ← List.append_assoc] at hcs
          cases rest₄ with
          | nil =>
              rw [List.append_nil] at hcs
              rw [hcs]
              exact .inl hright
          | cons c rest => exact .inr ⟨_, _, _, hcs, .missing hright (List.cons_ne_nil c rest)⟩
        · exact .inr (hstuck hcs h)
  · exact .inr (hstuck hcs h)

/-! ### What has been read -/

theorem Expects.read_left (h : Expects .operator before rest) :
    ∃ (start : Blanks) (l : Operand) (gl : Blanks), l.Expressible ∧
      before = start.chars ++ (l.chars ++ gl.chars) := by
  cases h with
  | @left _ _ l gl h hl =>
      cases h with
      | start start => exact ⟨start, l, gl, hl.expressible, rfl⟩

theorem Expects.read_sign (h : Expects .symbol before rest) :
    ∃ (start : Blanks) (l : Operand) (gl : Blanks) (op : Operator) (gr : Blanks), l.Expressible ∧
      before = start.chars ++ (l.chars ++ gl.chars) ++ (op.chars ++ gr.chars) := by
  cases h with
  | @sign _ _ op gr h =>
      obtain ⟨start, l, gl, hl, rfl⟩ := h.read_left
      exact ⟨start, l, gl, op, gr, hl, rfl⟩

/-- A text that has been read to its end spells a condition. -/
theorem Expects.spells (h : Expects .endOfInput before rest) :
    ∃ c g, Condition.Spells c g (String.ofList before) := by
  cases h with
  | @right _ _ r ga h hr =>
      obtain ⟨start, l, gl, op, gr, hl, rfl⟩ := h.read_sign
      refine ⟨⟨l, op, r⟩, ⟨start, gl, gr, ga⟩, ⟨hl, hr.expressible⟩, ?_⟩
      simp [Condition.spell, Condition.body]

def zero : Operand := ⟨.number, "0"⟩

theorem expressible_zero : zero.Expressible :=
  ⟨[], ['0'], [], rfl, .inl rfl, by decide, .inl rfl⟩

/-- Where an operand is expected, any operand can go on the text to a whole expression. -/
theorem Expects.completes (h : Expects side before rest)
    (hside : side = .condition ∨ side = .symbol) {o : Operand} (ho : o.Expressible) :
    ∃ more c g, Condition.Spells c g (String.ofList (before ++ (o.chars ++ more))) := by
  rcases hside with rfl | rfl
  · cases h with
    | start gap =>
        refine ⟨Operator.chars .equal ++ zero.chars, ⟨o, .equal, zero⟩,
          ⟨gap, .none, .none, .none⟩, ⟨ho, expressible_zero⟩, ?_⟩
        simp [Condition.spell, Condition.body, Blanks.none]
  · obtain ⟨start, l, gl, op, gr, hl, rfl⟩ := h.read_sign
    refine ⟨[], ⟨l, op, o⟩, ⟨start, gl, gr, .none⟩, ⟨hl, ho⟩, ?_⟩
    simp [Condition.spell, Condition.body, Blanks.none]

/-- What stands before the place where reading gets stuck can be gone on to an expression. -/
theorem Stuck.completes (h : Stuck expected before rest) :
    ∃ more c g, Condition.Spells c g (String.ofList (before ++ more)) := by
  cases h with
  | missing h hlacks =>
      cases h with
      | start gap stops =>
          have hstart := Expects.start gap stops
          obtain ⟨more, c, g, hspells⟩ := hstart.completes (.inl rfl) expressible_zero
          exact ⟨_, c, g, hspells⟩
      | @left before rest o gap h hl hstops =>
          obtain ⟨start, l, gl, hl, heq⟩ := (Expects.left h hl hstops).read_left
          rw [heq]
          refine ⟨Operator.chars .equal ++ zero.chars, ⟨l, .equal, zero⟩,
            ⟨start, gl, .none, .none⟩, ⟨hl, expressible_zero⟩, ?_⟩
          simp [Condition.spell, Condition.body, Blanks.none]
      | sign h hop hstops =>
          obtain ⟨more, c, g, hspells⟩ := (h.sign hop hstops).completes (.inr rfl) expressible_zero
          exact ⟨_, c, g, hspells⟩
      | right h hr hstops =>
          obtain ⟨c, g, hspells⟩ := (h.right hr hstops).spells
          refine ⟨[], c, g, ?_⟩
          rw [List.append_nil]
          exact hspells
  | @unclosed side before content rest h hside hcontent =>
      have ho : Operand.Expressible ⟨.quoted, String.ofList content⟩ := by
        simpa [Operand.Expressible] using hcontent
      obtain ⟨more, c, g, hspells⟩ := h.completes hside ho
      refine ⟨'"' :: more, c, g, ?_⟩
      simpa [Operand.chars_quoted] using hspells

/-! ### Errors -/

theorem past_append (before xs rest : List Char) :
    past (byteLength before) xs rest = past (byteLength (before ++ xs)) [] rest := by
  simp [past]

theorem Expects.skipGap_eq (h : Expects .condition before rest) :
    skipGap ⟨0, before ++ rest⟩ = past (byteLength before) [] rest := by
  cases h with
  | start gap hstops =>
      rw [← Nat.zero_add (byteLength gap.chars), ← past_eq]
      exact skipGap_past 0 gap hstops

/-- The operand that a text leads with is read, with the blanks after it. -/
theorem succeeds_readSymbol_of_leads (before : List Char) {o : Operand} {gap : Blanks}
    (leads : o.Leads (o.chars ++ (gap.chars ++ rest))) (stops : Stops isGap rest) :
    ∃ tree, Succeeds (readSymbol (past (byteLength before) [] (o.chars ++ (gap.chars ++ rest))))
      (byteLength before) tree (past (byteLength (before ++ (o.chars ++ gap.chars))) [] rest) := by
  have h := succeeds_readSymbol (n := byteLength before) leads.expressible gap.blank stops
    (Operand.endsAt_of_leads leads)
  rw [List.append_assoc, past_append before (o.chars ++ gap.chars)] at h
  exact ⟨_, h⟩

/-- The first operand has been read, behind the blanks in front of it. -/
theorem Expects.succeeds_left (h : Expects .operator before rest) :
    ∃ n cs left, skipGap ⟨0, before ++ rest⟩ = past n [] cs ∧ n < byteLength before ∧
      Succeeds (readSymbol (past n [] cs)) n left (past (byteLength before) [] rest) := by
  cases h with
  | @left start _ o gap h hl hstops =>
      obtain ⟨tree, htree⟩ := succeeds_readSymbol_of_leads start hl hstops
      refine ⟨byteLength start, _, tree, ?_, ?_, htree⟩
      · rw [← h.skipGap_eq]
        simp only [List.append_assoc]
      · obtain ⟨c, cs, hc, -⟩ := Operand.exists_head hl.expressible
        have hpos := Char.utf8Size_pos c
        simp only [byteLength_append, hc, byteLength_cons]
        omega

/-- The first operand and the operator have been read. -/
theorem Expects.succeeds_sign (h : Expects .symbol before rest) :
    ∃ n cs left m ds op, skipGap ⟨0, before ++ rest⟩ = past n [] cs ∧ n < byteLength before ∧
      Succeeds (readSymbol (past n [] cs)) n left (past m [] ds) ∧
      Succeeds (readOperator (past m [] ds)) m op (past (byteLength before) [] rest) := by
  cases h with
  | @sign first _ op gap h hop hstops =>
      obtain ⟨n, cs, left, hskip, hlt, hleft⟩ := h.succeeds_left
      have hread := Operator.read?_of_leads hop
      have hsign := succeeds_readOperator (n := byteLength first) hread gap.blank hstops
      rw [past_append first (op.chars ++ gap.chars)] at hsign
      refine ⟨n, cs, left, byteLength first, _, _, ?_, ?_, hleft, hsign⟩
      · rw [← hskip]
        simp only [List.append_assoc]
      · rw [byteLength_append]
        omega

/-- A whole condition has been read. -/
theorem Expects.succeeds_parts (h : Expects .endOfInput before rest) :
    ∃ n cs parts, skipGap ⟨0, before ++ rest⟩ = past n [] cs ∧
      Succeeds (readParts (past n [] cs)) n parts (past (byteLength before) [] rest) := by
  cases h with
  | @right first _ o gap h hr hstops =>
      obtain ⟨n, cs, left, m, ds, op, hskip, -, hleft, hsign⟩ := h.succeeds_sign
      obtain ⟨right, hright⟩ := succeeds_readSymbol_of_leads first hr hstops
      refine ⟨n, cs, _, ?_, Succeeds.parts hleft hsign hright⟩
      rw [← hskip]
      simp only [List.append_assoc]

theorem parse_of_failsAt {s : String} {n : Nat} {cs : List Char} {o : Obstacle}
    (hskip : skipGap ⟨0, s.toList⟩ = past n [] cs)
    (h : FailsAt (readCondition (past n [] cs)) n o) : ParseTree.parse s = .error o.error := by
  have hrun := h none (knownUpTo_none n)
  rw [← hskip] at hrun
  rw [ParseTree.parse, readRoot, runFrom_bind, hrun]
  rfl

/-- What is in the way of a part of the condition, behind its start, is in the way of the text. -/
theorem parse_of_failsAt_parts {s : String} {n : Nat} {cs : List Char} {o : Obstacle}
    (hskip : skipGap ⟨0, s.toList⟩ = past n [] cs)
    (h : FailsAt (readParts (past n [] cs)) n o) (hlt : n < o.cursor.offset) :
    ParseTree.parse s = .error o.error := by
  refine parse_of_failsAt hskip (h.orElse (runFrom_missing_of_lt ?_))
  exact hlt

theorem Expects.parse_of_failsAt_left {s : String} {o : Obstacle}
    (h : Expects .condition before rest) (hs : s.toList = before ++ rest)
    (ho : FailsAt (readSymbol (past (byteLength before) [] rest)) (byteLength before) o)
    (hlt : byteLength before < o.cursor.offset) : ParseTree.parse s = .error o.error := by
  refine parse_of_failsAt_parts ?_ ho.bind hlt
  rw [hs]
  exact h.skipGap_eq

theorem Expects.parse_of_failsAt_right {s : String} {o : Obstacle}
    (h : Expects .symbol before rest) (hs : s.toList = before ++ rest)
    (ho : FailsAt (readSymbol (past (byteLength before) [] rest)) (byteLength before) o)
    (hle : byteLength before ≤ o.cursor.offset) : ParseTree.parse s = .error o.error := by
  obtain ⟨n, cs, left, m, ds, op, hskip, hlt, hleft, hsign⟩ := h.succeeds_sign
  rw [← hs] at hskip
  have hparts := FailsAt.parts_right hleft hsign ho
  exact parse_of_failsAt_parts hskip hparts (Nat.lt_of_lt_of_le hlt hle)

theorem Expects.parse_of_lacks {s : String} (h : Expects expected before rest)
    (hs : s.toList = before ++ rest) (hlacks : Lacks expected rest) :
    ParseTree.parse s = .error ⟨byteLength before, expected, rest.head?⟩ := by
  have hread := h
  cases h with
  | start gap stops =>
      have hskip := hread.skipGap_eq
      rw [← hs] at hskip
      refine parse_of_failsAt (o := ⟨past (byteLength gap.chars) [] rest, .condition⟩) hskip ?_
      -- The condition is expected where its first operand is, and it is the outer of the two.
      refine FailsAt.orElse (failsAt_readSymbol hlacks.1 hlacks.2).bind ?_
      rw [runFrom_missing, farthest_eq]
      rintro _ ⟨⟩
      exact Nat.le_refl _
  | @left first _ o gap =>
      obtain ⟨n, cs, left, hskip, hlt, hleft⟩ := hread.succeeds_left
      generalize first ++ (o.chars ++ gap.chars) = before at hs hskip hlt hleft ⊢
      rw [← hs] at hskip
      have hnone := Operator.read?_eq_none.2 hlacks
      have hsign := readOperator_of_none (n := byteLength before) hnone
      have ho : FailsAt (readOperator (past (byteLength before) [] rest)) (byteLength before)
          ⟨past (byteLength before) [] rest, .operator⟩ := by
        rw [hsign]
        exact failsAt_missing (Nat.le_refl _)
      exact parse_of_failsAt_parts hskip (FailsAt.parts_operator hleft ho) hlt
  | sign =>
      exact hread.parse_of_failsAt_right hs (failsAt_readSymbol hlacks.1 hlacks.2) (Nat.le_refl _)
  | right =>
      obtain ⟨n, cs, ⟨left, op, right⟩, hskip, hparts⟩ := hread.succeeds_parts
      obtain ⟨later, hlater, hrun⟩ := hparts.orElse none (knownUpTo_none n)
      rw [← hskip, ← hs] at hrun
      have hroot := runFrom_readRoot hrun
      obtain ⟨c, tail, rfl⟩ := List.exists_cons_of_ne_nil hlacks
      rw [ParseTree.parse, hroot]
      simp only [past, List.isEmpty_cons, Bool.false_eq_true, if_false]
      rw [farthest_eq hlater]
      rfl

/-- The error of a text tells where reading it gets stuck. -/
theorem parse_of_stuck {s : String} (hs : s.toList = before ++ rest)
    (h : Stuck expected before rest) :
    ParseTree.parse s = .error ⟨byteLength before, expected, rest.head?⟩ := by
  cases h with
  | missing h hlacks => exact h.parse_of_lacks hs hlacks
  | @unclosed side before content rest h hside hcontent hstops =>
      obtain ⟨hstops, hquote⟩ := stops_isQuotable_iff.2 hstops
      have ho := failsAt_readSymbol_unclosed (n := byteLength before) hcontent hstops hquote
      rw [past_append before ('"' :: content)] at ho
      rw [List.append_assoc] at hs
      have hlt : byteLength before < byteLength (before ++ '"' :: content) := by
        have hpos := Char.utf8Size_pos '"'
        rw [byteLength_append, byteLength_cons]
        omega
      rcases hside with rfl | rfl
      · exact h.parse_of_failsAt_left hs ho hlt
      · exact h.parse_of_failsAt_right hs ho (Nat.le_of_lt hlt)

theorem exists_stuck_of_parse {s : String} {e : ParseError} (h : ParseTree.parse s = .error e) :
    ∃ expected before rest, s.toList = before ++ rest ∧ Stuck expected before rest ∧
      e = ⟨byteLength before, expected, rest.head?⟩ := by
  rcases expects_end_or_stuck s.toList with hend | ⟨expected, before, rest, hs, hstuck⟩
  · obtain ⟨c, g, hspells⟩ := hend.spells
    rw [String.ofList_toList] at hspells
    rw [parse_of_spells hspells] at h
    contradiction
  · rw [parse_of_stuck hs hstuck, Except.error.injEq] at h
    exact ⟨expected, before, rest, hs, hstuck, h.symm⟩

theorem Stuck.production (h : Stuck expected before rest) :
    expected ∈ [.condition, .operator, .symbol, .string, .endOfInput] := by
  cases h with
  | missing h => cases h <;> decide
  | unclosed => decide

theorem eq_of_byteLength_eq {xs xs' ys ys' : List Char} (heq : xs ++ ys = xs' ++ ys')
    (h : byteLength xs = byteLength xs') : xs = xs' ∧ ys = ys' := by
  have hnil {zs as : List Char} (has : byteLength zs = byteLength (zs ++ as)) : as = [] := by
    rw [byteLength_append] at has
    have hle := length_le_byteLength as
    exact List.length_eq_zero_iff.1 (by omega)
  rcases List.append_eq_append_iff.1 heq with ⟨as, rfl, rfl⟩ | ⟨as, rfl, rfl⟩
  · obtain rfl := hnil h
    rw [List.append_nil]
    exact ⟨rfl, rfl⟩
  · obtain rfl := hnil h.symm
    rw [List.append_nil]
    exact ⟨rfl, rfl⟩

/-- Reading a text gets stuck at one place only. -/
theorem Stuck.unique {before' rest' : List Char} {expected' : Production}
    (heq : before ++ rest = before' ++ rest') (h : Stuck expected before rest)
    (h' : Stuck expected' before' rest') :
    expected = expected' ∧ before = before' ∧ rest = rest' := by
  have herror := parse_of_stuck (s := String.ofList (before ++ rest)) String.toList_ofList h
  rw [parse_of_stuck (String.toList_ofList.trans heq) h', Except.error.injEq,
    ParseError.mk.injEq] at herror
  obtain ⟨hposition, hexpected, -⟩ := herror
  exact ⟨hexpected.symm, eq_of_byteLength_eq heq hposition.symm⟩

/-- A text is refused with the error that tells where reading it from the left, with the longest
match at each piece, gets stuck and what was expected there. There is one such place, it lies
between two characters or at an end of the text, and up to there the text begins an expression. -/
theorem error_tells_where_reading_is_stuck (s : String) :
    (∀ e, ParseTree.parse s = .error e ↔ ∃ expected before rest,
      s.toList = before ++ rest ∧ Stuck expected before rest ∧
        e = ⟨byteLength before, expected, rest.head?⟩) ∧
    (∀ expected before rest expected' before' rest',
      s.toList = before ++ rest → Stuck expected before rest →
      s.toList = before' ++ rest' → Stuck expected' before' rest' →
        expected = expected' ∧ before = before' ∧ rest = rest') ∧
    ∀ e, ParseTree.parse s = .error e →
      e.production ∈ [.condition, .operator, .symbol, .string, .endOfInput] ∧
      ∃ before rest : String, s = before ++ rest ∧ e.position = before.utf8ByteSize ∧
        e.found = rest.toList.head? ∧ (e.found = none ↔ e.position = s.utf8ByteSize) ∧
        ∃ more tree, ParseTree.parse (before ++ more) = .ok tree := by
  refine ⟨fun e => ⟨exists_stuck_of_parse, ?_⟩, ?_, ?_⟩
  · rintro ⟨expected, before, rest, hs, h, rfl⟩
    exact parse_of_stuck hs h
  · intro expected before rest expected' before' rest' hs h hs' h'
    exact h.unique (hs.symm.trans hs') h'
  · intro e he
    obtain ⟨expected, before, rest, hs, h, rfl⟩ := exists_stuck_of_parse he
    obtain ⟨more, c, g, hspells⟩ := h.completes
    have hcut : s = String.ofList before ++ String.ofList rest := by
      rw [← String.ofList_append, ← hs, String.ofList_toList]
    refine ⟨h.production, String.ofList before, String.ofList rest, hcut, ?_, ?_, ?_, ?_⟩
    · exact (utf8ByteSize_ofList before).symm
    · rw [String.toList_ofList]
    · rw [hcut, String.utf8ByteSize_append, utf8ByteSize_ofList, utf8ByteSize_ofList,
        List.head?_eq_none_iff]
      have hle := length_le_byteLength rest
      constructor
      · rintro rfl
        rfl
      · intro hend
        change byteLength before = byteLength before + byteLength rest at hend
        exact List.length_eq_zero_iff.1 (by omega)
    · refine ⟨String.ofList more, c.tree g, ?_⟩
      rw [← String.ofList_append]
      exact parse_of_spells hspells

end AlertPolicy.Expr
