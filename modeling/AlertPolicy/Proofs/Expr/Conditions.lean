import AlertPolicy.Expr.Parse
import AlertPolicy.Proofs.Expr.Front

/-!
Reading of whole texts. A text that spells a condition is read as the tree of that spelling, and in
any other text there is a first piece that does not fit: reading from the left comes to an end
there, and that place is the farthest obstacle of all attempts.
-/

namespace AlertPolicy.Expr

open AlertPolicy.Number AlertPolicy.Text Cursor

variable {n : Nat} {cs rest gap : List Char}

theorem past_eq (n : Nat) (xs rest : List Char) :
    past n xs rest = past (n + byteLength xs) [] rest := rfl

/-! ### Operators -/

theorem read?_chars (op : Operator) (h : Stops (· == '=') rest) :
    Operator.read? (op.chars ++ rest) = some (op, rest) := by
  cases rest with
  | nil => cases op <;> rfl
  | cons c rest =>
      have hc : (c == '=') = false := (stops_cons (p := (· == '='))).1 h
      have hc' : ('=' == c) = false := by rw [Bool.beq_comm, hc]
      cases op <;> simp [Operator.read?, Operator.all, Operator.chars, List.isPrefixOf, hc']

theorem readOperator_of_some {op : Operator} (h : Operator.read? cs = some (op, gap ++ rest))
    (hg : ∀ c ∈ gap, isGap c = true) (hrest : Stops isGap rest) :
    readOperator (past n [] cs) =
      pure (⟨⟨n, op.chars ++ gap⟩, ⟨n, op.chars⟩, op⟩, past n (op.chars ++ gap) rest) := by
  obtain rfl := Operator.eq_append_of_read? h
  have hgap : skipGap (past n op.chars (gap ++ rest)) = past n (op.chars ++ gap) rest :=
    skipWhile_past n hg hrest
  have hwhole : spanTo (past n [] (op.chars ++ gap ++ rest))
      (past n ([] ++ (op.chars ++ gap)) rest) = ⟨n, op.chars ++ gap⟩ := spanTo_past n
  have hsign : spanTo (past n [] (op.chars ++ (gap ++ rest)))
      (past n ([] ++ op.chars) (gap ++ rest)) = ⟨n, op.chars⟩ := spanTo_past n
  have hcursor : (⟨(past n [] (op.chars ++ (gap ++ rest))).offset + byteLength op.chars,
      gap ++ rest⟩ : Cursor) = past n op.chars (gap ++ rest) := rfl
  rw [List.append_assoc] at hwhole
  rw [List.nil_append] at hwhole hsign
  have hrest' : (past n [] (op.chars ++ (gap ++ rest))).rest = op.chars ++ (gap ++ rest) := rfl
  simp only [readOperator, hrest', h, hcursor, hgap, hwhole, hsign]

theorem readOperator_of_none (h : Operator.read? cs = none) :
    readOperator (past n [] cs) = missing .operator (past n [] cs) := by
  simp only [readOperator, past, h]

/-! ### What follows a piece of a spelling -/

theorem Blanks.stops {p : Char → Bool} (g : Blanks) (hspace : p ' ' = false)
    (htab : p '\t' = false) : Stops p g.chars := by
  intro c hc
  have hgap := g.blank c (List.mem_of_mem_head? hc)
  simp only [isGap, Bool.or_eq_true, beq_iff_eq] at hgap
  rcases hgap with rfl | rfl
  · exact hspace
  · exact htab

theorem stops_operator (op : Operator) (rest : List Char) :
    Stops isGap (op.chars ++ rest) ∧ Stops isIdentifier (op.chars ++ rest) := by
  cases op <;> exact ⟨stops_cons.2 (by decide), stops_cons.2 (by decide)⟩

theorem not_isGap_of_isIdentifier {c : Char} (h : isIdentifier c = true) : isGap c = false := by
  cases hc : isGap c with
  | false => rfl
  | true =>
      simp only [isGap, Bool.or_eq_true, beq_iff_eq] at hc
      rcases hc with rfl | rfl <;> exact absurd h (by decide)

theorem not_equals_of_isIdentifier {c : Char} (h : isIdentifier c = true) : (c == '=') = false := by
  cases hc : c == '=' with
  | false => rfl
  | true =>
      cases eq_of_beq hc
      exact absurd h (by decide)

/-- An operand begins with a quote or with a character of identifiers. -/
theorem stops_operand {p : Char → Bool} {o : Operand} (ho : o.Expressible) (hquote : p '"' = false)
    (hp : ∀ c, isIdentifier c = true → p c = false) (rest : List Char) :
    Stops p (o.chars ++ rest) := by
  obtain ⟨kind, text⟩ := o
  cases kind with
  | number =>
      obtain ⟨sign, whole, fraction, heq, hs, hw, -⟩ := ho
      obtain ⟨d, ds, rfl⟩ := List.exists_cons_of_ne_nil (ne_nil_of_isDigits hw)
      have hd := isIdentifier_of_isDigit (all_of_isDigits hw d (by simp))
      change text.toList = _ at heq
      rw [Operand.chars_number, heq]
      rcases hs with rfl | rfl
      · exact stops_cons.2 (hp d hd)
      · exact stops_cons.2 (hp '-' (by decide))
  | «variable» =>
      obtain ⟨c, cs, hcs⟩ := List.exists_cons_of_ne_nil ho.1
      rw [Operand.chars_variable, hcs]
      refine stops_cons.2 (hp c (ho.2.1 c ?_))
      rw [hcs]
      exact List.mem_cons_self
  | quoted =>
      rw [Operand.chars_quoted]
      exact stops_cons.2 hquote

/-! ### Texts that spell a condition -/

theorem succeeds_readOperator {op : Operator} (h : Operator.read? cs = some (op, gap ++ rest))
    (hg : ∀ c ∈ gap, isGap c = true) (hrest : Stops isGap rest) :
    Succeeds (readOperator (past n [] cs)) n ⟨⟨n, op.chars ++ gap⟩, ⟨n, op.chars⟩, op⟩
      (past n (op.chars ++ gap) rest) := by
  rw [readOperator_of_some h hg hrest]
  exact succeeds_pure (le_offset_past n)

theorem Succeeds.parts {c c₁ c₂ c₃ : Cursor} {left right : SymbolTree} {op : OperatorTree}
    (hleft : Succeeds (readSymbol c) n left c₁) (hop : Succeeds (readOperator c₁) c₁.offset op c₂)
    (hright : Succeeds (readSymbol c₂) c₂.offset right c₃) :
    Succeeds (readParts c) n (left, op, right) c₃ := by
  refine hleft.bind ?_
  refine hop.bind ?_
  refine hright.bind ?_
  exact succeeds_pure (Nat.le_refl _)

theorem succeeds_readParts {c : Condition} (hc : c.Expressible) (g : Spacing)
    (hrest : Stops isGap rest) (hends : c.right.EndsAt (g.after.chars ++ rest)) :
    Succeeds (readParts (past n [] (c.body g ++ rest))) n (c.partsAt n g)
      (past n (c.body g) rest) := by
  have hright : Stops isGap (c.right.chars ++ g.after.chars ++ rest) := by
    rw [List.append_assoc]
    exact stops_operand hc.2 (by decide) (fun d => not_isGap_of_isIdentifier) _
  have hequals : Stops (· == '=') (g.right.chars ++ (c.right.chars ++ g.after.chars ++ rest)) := by
    rw [List.append_assoc]
    refine stops_append (g.right.stops (by decide) (by decide)) ?_
    exact stops_operand hc.2 (by decide) (fun d => not_equals_of_isIdentifier) _
  obtain ⟨hgap, hidentifier⟩ :=
    stops_operator c.operator (g.right.chars ++ (c.right.chars ++ g.after.chars ++ rest))
  have hleft := c.left.endsAt_of_stops
    (stops_append (g.left.stops (by decide) (by decide)) hidentifier)
  have hread := read?_chars c.operator hequals
  have h₁ := succeeds_readSymbol (n := n) hc.1 g.left.blank hgap hleft
  have h₂ := succeeds_readOperator (n := n + byteLength (c.left.chars ++ g.left.chars)) hread
    g.right.blank hright
  have h₃ := succeeds_readSymbol (n := n + byteLength (c.left.chars ++ g.left.chars) +
    byteLength (c.operator.chars ++ g.right.chars)) hc.2 g.after.blank hrest hends
  have hstop : past n (c.body g) rest = past (n + byteLength (c.left.chars ++ g.left.chars) +
      byteLength (c.operator.chars ++ g.right.chars)) (c.right.chars ++ g.after.chars) rest := by
    simp [past, Condition.body, Nat.add_assoc]
  rw [hstop, Condition.body, List.append_assoc (c.left.chars ++ g.left.chars),
    List.append_assoc (c.operator.chars ++ g.right.chars), List.append_assoc c.operator.chars]
  exact Succeeds.parts h₁ h₂ h₃

/-! ### Texts that spell none -/

/-- An attempt at an operand succeeds with the operand the text begins with, or fails for good. -/
theorem readSymbol_cases (n : Nat) (cs : List Char) :
    (∃ (o : Operand) (gap : Blanks) (rest : List Char), cs = o.chars ++ gap.chars ++ rest ∧
      o.Expressible ∧ Stops isGap rest ∧ o.EndsAt (gap.chars ++ rest)) ∨
    ∃ obstacle, FailsAt (readSymbol (past n [] cs)) n obstacle := by
  cases front cs with
  | operand o gap rest heq ho hrest hends => exact .inl ⟨o, gap, rest, heq, ho, hrest, hends⟩
  | unclosed content rest heq hc hrest hquote =>
      subst heq
      exact .inr ⟨_, failsAt_readSymbol_unclosed hc hrest hquote⟩
  | nothing hquote hword => exact .inr ⟨_, failsAt_readSymbol hquote hword⟩

theorem FailsAt.parts_operator {c c₁ : Cursor} {left : SymbolTree} {o : Obstacle}
    (hleft : Succeeds (readSymbol c) n left c₁) (hop : FailsAt (readOperator c₁) c₁.offset o) :
    FailsAt (readParts c) n o :=
  hleft.bind_failsAt hop.bind

theorem FailsAt.parts_right {c c₁ c₂ : Cursor} {left : SymbolTree} {op : OperatorTree}
    {o : Obstacle} (hleft : Succeeds (readSymbol c) n left c₁)
    (hop : Succeeds (readOperator c₁) c₁.offset op c₂)
    (hright : FailsAt (readSymbol c₂) c₂.offset o) : FailsAt (readParts c) n o :=
  hleft.bind_failsAt (hop.bind_failsAt hright.bind)

/-- A text begins with the body of a condition, or there is a first piece that does not fit. -/
theorem readParts_cases (n : Nat) (before : Blanks) (cs : List Char) :
    (∃ (c : Condition) (g : Spacing) (rest : List Char), g.before = before ∧ c.Expressible ∧
      cs = c.body g ++ rest ∧ Stops isGap rest ∧ c.right.EndsAt (g.after.chars ++ rest)) ∨
    ∃ o, FailsAt (readParts (past n [] cs)) n o := by
  -- Each piece that is read moves the start of the next attempt, and an attempt that fails does so
  -- at or behind its start: the obstacle of the first piece that fails is the farthest.
  rcases readSymbol_cases n cs with ⟨l, gl, rest₁, rfl, hl, hrest₁, hends₁⟩ | ⟨o, ho⟩
  · have hleft := succeeds_readSymbol (n := n) hl gl.blank hrest₁ hends₁
    cases hread : Operator.read? rest₁ with
    | none =>
        refine .inr ⟨⟨past n (l.chars ++ gl.chars) rest₁, .operator⟩,
          FailsAt.parts_operator hleft ?_⟩
        rw [past_eq, readOperator_of_none hread]
        exact failsAt_missing (Nat.le_refl _)
    | some found =>
        obtain ⟨op, tail⟩ := found
        obtain ⟨gr, rest₂, rfl, hrest₂⟩ := exists_blanks tail
        have hop := succeeds_readOperator (n := n + byteLength (l.chars ++ gl.chars)) hread
          gr.blank hrest₂
        rcases readSymbol_cases (n + byteLength (l.chars ++ gl.chars) +
          byteLength (op.chars ++ gr.chars)) rest₂ with
            ⟨r, ga, rest₃, rfl, hr, hrest₃, hends₃⟩ | ⟨o, ho⟩
        · refine .inl ⟨⟨l, op, r⟩, ⟨before, gl, gr, ga⟩, rest₃, rfl, ⟨hl, hr⟩, ?_, hrest₃, hends₃⟩
          rw [Operator.eq_append_of_read? hread]
          simp [Condition.body]
        · exact .inr ⟨o, FailsAt.parts_right hleft hop ho⟩
  · exact .inr ⟨o, ho.bind⟩

/-! ### Whole texts -/

theorem skipGap_past (n : Nat) (gap : Blanks) (hrest : Stops isGap rest) :
    skipGap (past n [] (gap.chars ++ rest)) = past n gap.chars rest :=
  skipWhile_past n gap.blank hrest

theorem succeeds_readCondition {c : Condition} (hc : c.Expressible) (g : Spacing)
    (hrest : Stops isGap rest) (hends : c.right.EndsAt (g.after.chars ++ rest)) :
    Succeeds (readCondition (past n [] (c.body g ++ rest))) n (c.partsAt n g)
      (past n (c.body g) rest) :=
  (succeeds_readParts hc g hrest hends).orElse

theorem spanTo_end {c stop : Cursor} (h : stop.rest = []) : c.spanTo stop = ⟨c.offset, c.rest⟩ := by
  rw [spanTo, h, List.length_nil, Nat.sub_zero, List.take_length]

/-- The attempt at a whole text once the condition it begins with has been read. -/
theorem runFrom_readRoot {start stop : Cursor} {left right : SymbolTree} {op : OperatorTree}
    {later : Option Obstacle}
    (h : (readCondition start.skipGap).runFrom none = (some ((left, op, right), stop), later)) :
    (readRoot start).runFrom none =
      if stop.rest.isEmpty then
        (some ⟨start.spanTo stop, start.skipGap.spanTo stop, left, op, right⟩, later)
      else (none, some (Obstacle.farthest later ⟨stop, .endOfInput⟩)) := by
  rw [readRoot, runFrom_bind, h]
  simp only
  split
  · exact runFrom_pure _ later
  · exact runFrom_missing _ stop later

/-- A text that begins with a condition is its spelling, or what is left over is an error. -/
theorem parse_of_body {c : Condition} (hc : c.Expressible) (g : Spacing) {s : String}
    (hs : s.toList = g.before.chars ++ (c.body g ++ rest)) (hrest : Stops isGap rest)
    (hends : c.right.EndsAt (g.after.chars ++ rest)) :
    ∃ e, ParseTree.parse s = if rest.isEmpty then .ok (c.tree g) else .error e := by
  have hbody : Stops isGap (c.body g ++ rest) := by
    rw [Condition.body, List.append_assoc, List.append_assoc]
    exact stops_operand hc.1 (by decide) (fun d => not_isGap_of_isIdentifier) _
  have hskip : skipGap ⟨0, s.toList⟩ =
      past (0 + byteLength g.before.chars) [] (c.body g ++ rest) := by
    rw [hs]
    exact skipGap_past 0 g.before hbody
  obtain ⟨later, -, hrun⟩ := succeeds_readCondition (n := 0 + byteLength g.before.chars) hc g hrest
    hends none (knownUpTo_none _)
  rw [← hskip] at hrun
  refine ⟨(Obstacle.farthest later
    ⟨past (0 + byteLength g.before.chars) (c.body g) rest, .endOfInput⟩).error, ?_⟩
  rw [ParseTree.parse, runFrom_readRoot hrun]
  cases rest with
  | nil =>
      rw [List.append_nil] at hs hskip
      have hroot : spanTo ⟨0, s.toList⟩ (past (0 + byteLength g.before.chars) (c.body g) []) =
          ⟨0, c.spell g⟩ := by
        rw [spanTo_end rfl, hs, Condition.spell]
      have hcondition : spanTo (skipGap ⟨0, s.toList⟩)
          (past (0 + byteLength g.before.chars) (c.body g) []) =
            ⟨byteLength g.before.chars, c.body g⟩ := by
        rw [hskip, spanTo_end rfl, past, byteLength_nil, Nat.zero_add, Nat.add_zero]
      simp only [hroot, hcondition]
      simp only [Nat.zero_add, Condition.tree]
      rfl
  | cons d rest => rfl

/-- A text that spells a condition is read as the tree of its spelling. -/
theorem parse_of_spells {c : Condition} {g : Spacing} {s : String} (h : c.Spells g s) :
    ParseTree.parse s = .ok (c.tree g) := by
  obtain ⟨hc, hs⟩ := h
  have hends : c.right.EndsAt (g.after.chars ++ []) :=
    c.right.endsAt_of_stops (stops_append (g.after.stops (by decide) (by decide)) stops_nil)
  rw [Condition.spell, ← List.append_nil (c.body g)] at hs
  obtain ⟨e, h⟩ := parse_of_body hc g hs stops_nil hends
  exact h

theorem spells_of_parse {s : String} {tree : ParseTree} (h : ParseTree.parse s = .ok tree) :
    ∃ c g, Condition.Spells c g s ∧ tree = c.tree g := by
  obtain ⟨before, rest, hs, hrest⟩ := exists_blanks s.toList
  rcases readParts_cases (0 + byteLength before.chars) before rest with
    ⟨c, g, after, rfl, hc, rfl, hafter, hends⟩ | ⟨o, ho⟩
  · obtain ⟨e, he⟩ := parse_of_body hc g hs hafter hends
    rw [h] at he
    cases after with
    | nil =>
        rw [List.append_nil] at hs
        exact ⟨c, g, ⟨hc, hs⟩, Except.ok.inj he⟩
    | cons d after => contradiction
  · have hskip : skipGap ⟨0, s.toList⟩ = past (0 + byteLength before.chars) [] rest := by
      rw [hs]
      exact skipGap_past 0 before hrest
    have hcondition := ho none (knownUpTo_none _)
    rw [← hskip] at hcondition
    rw [ParseTree.parse, readRoot, runFrom_bind, readCondition, runFrom_orElse, hcondition] at h
    contradiction

/-- The trees of a text are those of its spellings. -/
theorem parse_eq_ok_iff {s : String} {tree : ParseTree} :
    ParseTree.parse s = .ok tree ↔ ∃ c g, Condition.Spells c g s ∧ tree = c.tree g := by
  refine ⟨spells_of_parse, ?_⟩
  rintro ⟨c, g, h, rfl⟩
  exact parse_of_spells h

theorem spelling_unique {c d : Condition} {g h : Spacing} {s : String} (hc : c.Spells g s)
    (hd : d.Spells h s) : c = d ∧ g = h := by
  have heq := parse_of_spells hc
  rw [parse_of_spells hd] at heq
  exact (tree_injective (Except.ok.inj heq)).imp Eq.symm Eq.symm

end AlertPolicy.Expr
