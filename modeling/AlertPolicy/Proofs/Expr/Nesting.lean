import Mathlib.Data.List.Basic
import AlertPolicy.Proofs.Expr.Acceptance

/-!
Spans of parse trees as pieces of the text. What is shown of nested nodes holds of all of them;
the tree of an expression is then shown to be nested, and to leave out of its operands and its
operator nothing of the text but blanks and quotes.
-/

namespace AlertPolicy.Expr

open AlertPolicy.Text

namespace Span

/-- The part is a piece of the whole and begins where it says; its ends lie between characters. -/
def Encloses (whole part : Span) : Prop :=
  ∃ before after, whole.chars = before ++ part.chars ++ after ∧
    part.start = whole.start + byteLength before

theorem encloses_refl (s : Span) : s.Encloses s := ⟨[], [], by simp, rfl⟩

/-- A piece of a stretch of characters that begins at the offset. -/
theorem encloses_of_append (n : Nat) (before cs after : List Char) :
    Encloses ⟨n, before ++ cs ++ after⟩ ⟨n + byteLength before, cs⟩ :=
  ⟨before, after, rfl, rfl⟩

variable {a b c : Span}

theorem Encloses.trans (hab : a.Encloses b) (hbc : b.Encloses c) : a.Encloses c := by
  obtain ⟨before, after, hchars, hstart⟩ := hab
  obtain ⟨before', after', hchars', hstart'⟩ := hbc
  refine ⟨before ++ before', after' ++ after, ?_, ?_⟩
  · simp only [hchars, hchars', List.append_assoc]
  · simp only [hstart, hstart', byteLength_append, Nat.add_assoc]

theorem Encloses.start_le (h : a.Encloses b) : a.start ≤ b.start := by
  obtain ⟨before, -, -, hstart⟩ := h
  omega

theorem Encloses.stop_le (h : a.Encloses b) : b.stop ≤ a.stop := by
  obtain ⟨before, after, hchars, hstart⟩ := h
  simp only [stop, hchars, hstart, byteLength_append]
  omega

theorem start_le_stop (s : Span) : s.start ≤ s.stop := Nat.le_add_right _ _

end Span

namespace Node

/-- Every node lies inside the one above it, and nodes side by side are disjoint and in order. -/
inductive Nested : Node → Prop where
  | mk {token : Token} {children : List Node}
      (inside : ∀ n ∈ children, token.span.Encloses n.span)
      (apart : children.Pairwise fun m n => m.span.stop ≤ n.span.start)
      (below : ∀ n ∈ children, n.Nested) : Nested (mk token children)

theorem nested_leaf (token : Token) : (mk token []).Nested :=
  .mk (by simp) .nil (by simp)

theorem nested_only {token : Token} {n : Node} (inside : token.span.Encloses n.span)
    (below : n.Nested) : (mk token [n]).Nested :=
  .mk (by simpa using inside) (List.pairwise_singleton _ _) (by simpa using below)

/-- Three nodes that follow one another fill the node above them. -/
theorem nested_row {production : Production} {n : Nat} {xs ys zs : List Char} {x y z : Node}
    (hx : x.span = ⟨n, xs⟩) (hy : y.span = ⟨n + byteLength xs, ys⟩)
    (hz : z.span = ⟨n + byteLength xs + byteLength ys, zs⟩)
    (below : x.Nested ∧ y.Nested ∧ z.Nested) :
    (mk ⟨production, ⟨n, xs ++ (ys ++ zs)⟩⟩ [x, y, z]).Nested := by
  refine .mk ?_ ?_ (by simpa using below)
  · have hfirst := Span.encloses_of_append n [] xs (ys ++ zs)
    have hsecond := Span.encloses_of_append n xs ys zs
    have hthird := Span.encloses_of_append n (xs ++ ys) zs []
    simp only [List.append_assoc, List.append_nil, byteLength_append, ← Nat.add_assoc]
      at hsecond hthird
    simpa [hx, hy, hz] using ⟨hfirst, hsecond, hthird⟩
  · simp [hx, hy, hz, Span.stop, Nat.add_assoc]

theorem tokensOf_eq (ns : List Node) : tokensOf ns = ns.flatMap tokens := by
  induction ns with
  | nil => rfl
  | cons n ns ih => rw [tokensOf, ih, List.flatMap_cons]

theorem tokens_mk (token : Token) (children : List Node) :
    (mk token children).tokens = token :: children.flatMap tokens := by
  rw [tokens, tokensOf_eq]

/-- All tokens of a nested node lie inside it. -/
theorem Nested.encloses {n : Node} (h : n.Nested) : ∀ t ∈ n.tokens, n.span.Encloses t.span := by
  induction h with
  | @mk token children inside apart below ih =>
      intro t ht
      rw [tokens_mk] at ht
      cases List.mem_cons.1 ht with
      | inl h =>
          subst h
          exact t.span.encloses_refl
      | inr h =>
          obtain ⟨n, hn, ht⟩ := List.mem_flatMap.1 h
          exact (inside n hn).trans (ih n hn t ht)

/-- The tokens of a nested node are listed in the order in which they begin. -/
theorem Nested.starts {n : Node} (h : n.Nested) :
    n.tokens.Pairwise fun t u => t.span.start ≤ u.span.start := by
  induction h with
  | @mk token children inside apart below ih =>
      rw [tokens_mk, List.pairwise_cons, List.pairwise_flatMap]
      refine ⟨?_, ih, ?_⟩
      · intro t ht
        obtain ⟨n, hn, ht⟩ := List.mem_flatMap.1 ht
        exact ((inside n hn).trans ((below n hn).encloses t ht)).start_le
      -- A token of an earlier child begins before that child ends, so before the later one.
      · refine apart.imp_of_mem ?_
        intro m n hm hn hmn t ht u hu
        have hstart := t.span.start_le_stop
        have hstop := ((below m hm).encloses t ht).stop_le
        have hnext := ((below n hn).encloses u hu).start_le
        omega

end Node

/-! ### The tree of an expression -/

theorem encloses_symbolAt (o : Operand) (n : Nat) (gap : List Char) :
    (o.symbolAt n gap).span.Encloses (o.symbolAt n gap).operand.node.span := by
  obtain ⟨kind, text⟩ := o
  cases kind with
  | number => exact Span.encloses_of_append n [] text.toList gap
  | «variable» => exact Span.encloses_of_append n [] text.toList gap
  | quoted => exact Span.encloses_refl _

theorem nested_symbolAt (o : Operand) (n : Nat) (gap : List Char) :
    (o.symbolAt n gap).node.Nested := by
  refine Node.nested_only (encloses_symbolAt o n gap) ?_
  obtain ⟨kind, text⟩ := o
  cases kind with
  | number => exact Node.nested_leaf _
  | «variable» => exact Node.nested_leaf _
  | quoted =>
      refine Node.nested_only ?_ (Node.nested_leaf _)
      have h := Span.encloses_of_append n ['"'] text.toList ('"' :: gap)
      simp only [Operand.chars_quoted, List.cons_append, List.append_assoc]
      exact h

theorem nested_operator (n : Nat) (op : Operator) (gap : List Char) :
    (OperatorTree.mk ⟨n, op.chars ++ gap⟩ ⟨n, op.chars⟩ op).node.Nested :=
  Node.nested_only (Span.encloses_of_append n [] op.chars gap) (Node.nested_leaf _)

theorem nested_tree (c : Condition) (g : Spacing) : (c.tree g).node.Nested := by
  have hbody : (Span.mk 0 (c.spell g)).Encloses ⟨byteLength g.before.chars, c.body g⟩ := by
    have h := Span.encloses_of_append 0 g.before.chars (c.body g) []
    simpa [Condition.spell] using h
  refine Node.nested_only hbody (Node.nested_only (Span.encloses_refl _) ?_)
  refine Node.nested_row rfl rfl rfl ⟨?_, ?_, ?_⟩
  · exact nested_symbolAt c.left _ _
  · exact nested_operator _ c.operator _
  · exact nested_symbolAt c.right _ _

/-! ### What lies outside of the operands and the operator -/

/-- The character stands in the text at the byte offset. -/
def CharAt (cs : List Char) (n : Nat) (c : Char) : Prop :=
  ∃ before after, cs = before ++ c :: after ∧ n = byteLength before

section CharAt

variable {xs ys : List Char} {n : Nat} {c : Char}

theorem CharAt.mem (h : CharAt xs n c) : c ∈ xs := by
  obtain ⟨before, after, rfl, -⟩ := h
  simp

theorem CharAt.lt (h : CharAt xs n c) : n < byteLength xs := by
  obtain ⟨before, after, rfl, rfl⟩ := h
  have hpos := Char.utf8Size_pos c
  simp only [byteLength_append, byteLength_cons]
  omega

theorem charAt_singleton {d : Char} (h : CharAt [d] n c) : c = d ∧ n = 0 := by
  obtain ⟨before, after, heq, rfl⟩ := h
  cases before with
  | nil =>
      cases heq
      exact ⟨rfl, rfl⟩
  | cons x before => simp at heq

theorem CharAt.of_append (h : CharAt (xs ++ ys) n c) :
    CharAt xs n c ∨ ∃ m, CharAt ys m c ∧ n = byteLength xs + m := by
  obtain ⟨before, after, heq, rfl⟩ := h
  rcases List.append_eq_append_iff.1 heq with ⟨middle, rfl, rfl⟩ | ⟨middle, rfl, hmiddle⟩
  · exact .inr ⟨byteLength middle, ⟨middle, after, rfl, rfl⟩, byteLength_append xs middle⟩
  · cases middle with
    | nil => exact .inr ⟨0, ⟨[], after, hmiddle.symm, rfl⟩, by simp⟩
    | cons x middle =>
        obtain ⟨rfl, rfl⟩ := List.cons.inj hmiddle
        exact .inl ⟨before, middle, rfl, rfl⟩

end CharAt

/-- A character that stands where it does belongs to the text of an operand or of the operator, or
it is a blank, or a quote next to the text of a string. -/
inductive Accounted (tokens : List Token) (n : Nat) (c : Char) : Prop where
  | part (t : Token) (mem : t ∈ tokens) (isPart : t.part?.isSome) (from_start : t.span.start ≤ n)
      (before_stop : n < t.span.stop)
  | blank (isGap : isGap c)
  | quote (t : Token) (mem : t ∈ tokens) (isText : t.production = .stringText) (isQuote : c = '"')
      (beside : n + 1 = t.span.start ∨ n = t.span.stop)

theorem Accounted.mono {tokens more : List Token} {n : Nat} {c : Char}
    (h : Accounted tokens n c) (hsub : tokens ⊆ more) : Accounted more n c := by
  cases h with
  | part t mem isPart from_start before_stop =>
      exact .part t (hsub mem) isPart from_start before_stop
  | blank isGap => exact .blank isGap
  | quote t mem isText isQuote beside => exact .quote t (hsub mem) isText isQuote beside

/-- The tokens account for all characters of a stretch that begins at the offset. -/
def AccountFor (tokens : List Token) (n : Nat) (cs : List Char) : Prop :=
  ∀ m c, CharAt cs m c → Accounted tokens (n + m) c

section AccountFor

variable {tokens more : List Token} {n : Nat} {xs ys : List Char}

theorem AccountFor.append (hx : AccountFor tokens n xs)
    (hy : AccountFor more (n + byteLength xs) ys) :
    AccountFor (tokens ++ more) n (xs ++ ys) := by
  intro m c h
  cases h.of_append with
  | inl h => exact (hx m c h).mono (List.subset_append_left _ _)
  | inr h =>
      obtain ⟨k, hk, rfl⟩ := h
      rw [← Nat.add_assoc]
      exact (hy k c hk).mono (List.subset_append_right _ _)

theorem AccountFor.mono (h : AccountFor tokens n xs) (hsub : tokens ⊆ more) :
    AccountFor more n xs :=
  fun m c hc => (h m c hc).mono hsub

theorem accountFor_blanks (n : Nat) (gap : Blanks) : AccountFor [] n gap.chars :=
  fun _ c h => .blank (gap.blank c h.mem)

theorem accountFor_part {t : Token} (h : t.part?.isSome) :
    AccountFor [t] t.span.start t.span.chars := by
  intro m c hc
  have hlt := hc.lt
  refine .part t List.mem_cons_self h (Nat.le_add_right _ _) ?_
  simp only [Span.stop]
  omega

theorem accountFor_quoted (n : Nat) (content : List Char) :
    AccountFor [⟨.stringText, ⟨n + 1, content⟩⟩] n ('"' :: (content ++ ['"'])) := by
  have hquote (m : Nat) (h : m + 1 = n + 1 ∨ m = n + 1 + byteLength content) :
      AccountFor [⟨.stringText, ⟨n + 1, content⟩⟩] m ['"'] := by
    intro k c hc
    obtain ⟨rfl, rfl⟩ := charAt_singleton hc
    exact .quote _ List.mem_cons_self rfl rfl h
  have htext : AccountFor [⟨.stringText, ⟨n + 1, content⟩⟩] (n + 1) content :=
    accountFor_part (t := ⟨.stringText, ⟨n + 1, content⟩⟩) rfl
  have h := (hquote n (.inl rfl)).append (htext.append (hquote _ (.inr rfl)))
  exact h.mono (by simp)

end AccountFor

theorem accountFor_symbolAt (o : Operand) (n : Nat) (gap : Blanks) :
    AccountFor (o.symbolAt n gap.chars).node.tokens n (o.chars ++ gap.chars) := by
  obtain ⟨kind, text⟩ := o
  cases kind with
  | number =>
      have h := accountFor_part (t := ⟨.number, ⟨n, text.toList⟩⟩) rfl
      exact (h.append (accountFor_blanks _ gap)).mono (List.subset_cons_self _ _)
  | «variable» =>
      have h := accountFor_part (t := ⟨.variable, ⟨n, text.toList⟩⟩) rfl
      exact (h.append (accountFor_blanks _ gap)).mono (List.subset_cons_self _ _)
  | quoted =>
      have h := (accountFor_quoted n text.toList).append (accountFor_blanks _ gap)
      rw [← Operand.chars_quoted] at h
      refine h.mono ?_
      rw [List.append_nil]
      exact List.Subset.trans (List.subset_cons_self _ _) (List.subset_cons_self _ _)

theorem accountFor_operator (n : Nat) (op : Operator) (gap : Blanks) :
    AccountFor (OperatorTree.mk ⟨n, op.chars ++ gap.chars⟩ ⟨n, op.chars⟩ op).node.tokens n
      (op.chars ++ gap.chars) := by
  have h := accountFor_part (t := ⟨.sign op, ⟨n, op.chars⟩⟩) rfl
  exact (h.append (accountFor_blanks _ gap)).mono (List.subset_cons_self _ _)

theorem tokens_eq (t : ParseTree) :
    t.tokens = [⟨.root, t.root⟩, ⟨.expression, t.condition⟩, ⟨.condition, t.condition⟩] ++
      (t.left.node.tokens ++ (t.operator.node.tokens ++ t.right.node.tokens)) := by
  simp [ParseTree.tokens, ParseTree.node, Node.tokens_mk]

theorem accountFor_tree (c : Condition) (g : Spacing) :
    AccountFor (c.tree g).tokens 0 (c.spell g) := by
  have hleft := accountFor_symbolAt c.left (byteLength g.before.chars) g.left
  have hright := accountFor_symbolAt c.right (byteLength g.before.chars +
    byteLength (c.left.chars ++ g.left.chars) + byteLength (c.operator.chars ++ g.right.chars))
    g.after
  have hsign := accountFor_operator (byteLength g.before.chars +
    byteLength (c.left.chars ++ g.left.chars)) c.operator g.right
  have hbody := hleft.append (hsign.append hright)
  have hspell : AccountFor _ 0 (g.before.chars ++ c.body g) :=
    (accountFor_blanks 0 g.before).append (by rw [Nat.zero_add]; exact hbody)
  refine hspell.mono ?_
  rw [tokens_eq]
  exact List.subset_append_right _ _

/-! ### Texts and their trees -/

/-- What the matched operand of a symbol can consist of. -/
def operandShapes : List (List Production) := [[.number], [.variable], [.string, .stringText]]

/-- The tokens of the tree lay out the text: they come in a fixed order, each is a piece of the text
inside the one above it, and what they leave out are blanks and quotes. -/
structure ParseTree.LaysOut (t : ParseTree) (s : String) : Prop where
  root : t.tokens.head? = some ⟨.root, ⟨0, s.toList⟩⟩
  shape : ∃ left ∈ operandShapes, ∃ op, ∃ right ∈ operandShapes,
    t.tokens.map Token.production = [.root, .expression, .condition, .symbol] ++ left ++
      [.operator, .sign op, .symbol] ++ right
  nested : t.node.Nested
  inside : ∀ u ∈ t.tokens, (Span.mk 0 s.toList).Encloses u.span
  starts : t.tokens.Pairwise fun u v => u.span.start ≤ v.span.start
  accounted : ∀ n c, CharAt s.toList n c → Accounted t.tokens n c

theorem operandTree_shape (o : OperandTree) :
    o.node.tokens.map Token.production ∈ operandShapes := by
  cases o <;> simp [OperandTree.node, Node.tokens_mk, operandShapes]

theorem tokens_shape (t : ParseTree) :
    ∃ left ∈ operandShapes, ∃ op, ∃ right ∈ operandShapes,
      t.tokens.map Token.production = [.root, .expression, .condition, .symbol] ++ left ++
        [.operator, .sign op, .symbol] ++ right := by
  refine ⟨_, operandTree_shape t.left.operand, t.operator.operator, _,
    operandTree_shape t.right.operand, ?_⟩
  simp [tokens_eq, SymbolTree.node, OperatorTree.node, Node.tokens_mk]

theorem laysOut_of_spells {c : Condition} {g : Spacing} {s : String} (h : c.Spells g s) :
    (c.tree g).LaysOut s := by
  have hnested := nested_tree c g
  have hroot : (c.tree g).node.span = ⟨0, s.toList⟩ := by rw [h.2]; rfl
  refine ⟨?_, tokens_shape _, hnested, ?_, hnested.starts, ?_⟩
  · rw [h.2]
    rfl
  · rw [← hroot]
    exact hnested.encloses
  · intro n d hd
    rw [h.2] at hd
    have haccounted := accountFor_tree c g n d hd
    rwa [Nat.zero_add] at haccounted

/-- The tree of a text lays it out, and a builder that is given its tokens ends with the condition
that the text spells. So the grammar is the only thing that refuses a text. -/
theorem tree_lays_out_text (s : String) :
    (∀ t, ParseTree.parse s = .ok t → t.LaysOut s ∧
      ∃ c g, c.Spells g s ∧ Builder.ofTokens t.tokens = .ok c ∧
        t.tokens.filterMap Token.part? =
          [.operand c.left, .operator c.operator, .operand c.right]) ∧
    ∀ e, Condition.parse s = .error e → ∃ p, ParseTree.parse s = .error p ∧ e = .parse p := by
  constructor
  · intro t ht
    obtain ⟨c, g, hspells, rfl⟩ := spells_of_parse ht
    have hvalue := value_tree c g
    refine ⟨laysOut_of_spells hspells, c, g, hspells, ?_, ?_⟩
    · rw [ofTokens_tokens, hvalue]
    · have hparts := parseTree_parts (c.tree g)
      change _ = [Part.operand (c.tree g).value.left, .operator (c.tree g).value.operator,
        .operand (c.tree g).value.right] at hparts
      rwa [hvalue] at hparts
  · intro e he
    rw [condition_parse_eq] at he
    cases hparse : ParseTree.parse s with
    | error p =>
        rw [hparse] at he
        exact ⟨p, rfl, (Except.error.inj he).symm⟩
    | ok t =>
        rw [hparse] at he
        contradiction

theorem tree_lays_out_text_around_string :
    let s := "\t-x.1<=\"a b\" "
    let t : ParseTree :=
      { root := ⟨0, s.toList⟩
        condition := ⟨1, s.toList.drop 1⟩
        left := ⟨⟨1, ['-', 'x', '.', '1']⟩, .variable ⟨1, ['-', 'x', '.', '1']⟩⟩
        operator := ⟨⟨5, ['<', '=']⟩, ⟨5, ['<', '=']⟩, .lessOrEqual⟩
        right := ⟨⟨7, s.toList.drop 7⟩, .string ⟨7, s.toList.drop 7⟩ ⟨8, ['a', ' ', 'b']⟩⟩ }
    ParseTree.parse s = .ok t ∧ t.LaysOut s := by
  intro s t
  have hparse : ParseTree.parse s = .ok t := by decide +kernel
  exact ⟨hparse, ((tree_lays_out_text s).1 t hparse).1⟩

end AlertPolicy.Expr
