import AlertPolicy.Policy.Suggestion
import AlertPolicy.Proofs.Expr.Spelling
import AlertPolicy.Proofs.Text.EditDistance

/-!
Variables that can be mended. What may take the place of the last segment is said by edit scripts:
the field that fewer edits make of the segment, if no more than half of the longer of the two are
needed. The proposal is a word of the grammar, so that it can take the place of the variable.
-/

namespace AlertPolicy.Policy

open AlertPolicy.Expr Store

variable {v fixed : String} {head last : List Char} {field : Field} {n : Nat}

/-- The text is cut behind its last point, or in front of it as a whole if it has none. -/
structure EndsIn (v : String) (head last : List Char) : Prop where
  text : v.toList = head ++ last
  noPoint : '.' ∉ last
  parted : head = [] ∨ ∃ front, head = front ++ ['.']

/-- The least number of edits that make the name of the field of the segment in lower case. -/
def FieldDistance (segment : List Char) (field : Field) (n : Nat) : Prop :=
  IsLeast {k | Text.Edits k (segment.map Char.toLower) field.name.toList} n

/-- The field that is nearer to the segment, the received one if both are equally near, and how far
it is. -/
inductive Nearest (segment : List Char) : Field → Nat → Prop where
  | received {r t : Nat} (hr : FieldDistance segment .received r)
      (ht : FieldDistance segment .sent t) (h : r ≤ t) : Nearest segment .received r
  | sent {r t : Nat} (hr : FieldDistance segment .received r)
      (ht : FieldDistance segment .sent t) (h : t < r) : Nearest segment .sent t

/-- The text is the variable with the nearest field as its last segment; the field is close enough
to the segment, and the text is another variable and one that can be resolved. -/
inductive Mends (v fixed : String) : Prop where
  | intro (head last : List Char) (field : Field) (n : Nat) (ends : EndsIn v head last)
      (nearest : Nearest last field n) (eq : fixed = String.ofList head ++ field.name)
      (changes : fixed ≠ v) (resolves : ∃ ref, VariableRef.parse fixed = .ok ref)
      (close : n ≤ max last.length field.name.length / 2)

/-! ### The last segment -/

theorem exists_endsIn (v : String) : ∃ head last, EndsIn v head last := by
  obtain ⟨taken, rest, htext, htaken, hrest⟩ := exists_cut (· != '.') v.toList.reverse
  refine ⟨rest.reverse, taken.reverse, ?_, ?_, ?_⟩
  · rw [← List.reverse_append, ← htext, List.reverse_reverse]
  · intro hpoint
    have hne := htaken '.' (List.mem_reverse.1 hpoint)
    contradiction
  · cases rest with
    | nil => exact .inl rfl
    | cons c front =>
        have hc : c = '.' := by simpa using stops_cons.1 hrest
        rw [hc, List.reverse_cons]
        exact .inr ⟨front.reverse, rfl⟩

theorem EndsIn.lastSegment_eq (h : EndsIn v head last) : lastSegment v = last := by
  rw [lastSegment, h.text]
  rcases h.parted with rfl | ⟨front, rfl⟩
  · rw [List.nil_append, List.splitOn_eq_singleton h.noPoint]
    rfl
  · rw [List.append_assoc, List.singleton_append, List.splitOn_append_cons_self,
      List.splitOn_eq_singleton h.noPoint, List.getLastD_concat]

theorem EndsIn.withLastSegment_eq (h : EndsIn v head last) (name : String) :
    withLastSegment v name = String.ofList head ++ name := by
  rw [withLastSegment, h.lastSegment_eq, h.text, List.length_append, Nat.add_sub_cancel,
    List.take_left]

theorem EndsIn.eq_iff (h : EndsIn v head last) (name : String) :
    String.ofList head ++ name = v ↔ String.ofList last = name := by
  rw [← String.toList_inj, h.text, String.toList_append, String.toList_ofList,
    List.append_cancel_left_eq, ← String.toList_inj, String.toList_ofList]
  exact eq_comm

/-! ### The nearest field -/

theorem fieldDistance_iff :
    FieldDistance last field n ↔ n = nameDistance (String.ofList last) field.name := by
  have hlower : field.name.toList.map Char.toLower = field.name.toList := by
    cases field <;> decide
  have hleast := Text.editDistance_isLeast (last.map Char.toLower) field.name.toList
  rw [nameDistance, hlower, String.toList_ofList]
  constructor
  · intro h
    exact h.unique hleast
  · rintro rfl
    exact hleast

theorem Nearest.unique {field' : Field} {m : Nat} (h : Nearest last field n)
    (h' : Nearest last field' m) : field = field' ∧ n = m := by
  cases h with
  | received hr ht hle =>
      cases h' with
      | received hr' ht' hle' => exact ⟨rfl, hr.unique hr'⟩
      | sent hr' ht' hlt =>
          rw [hr.unique hr', ht.unique ht'] at hle
          omega
  | sent hr ht hlt =>
      cases h' with
      | received hr' ht' hle =>
          rw [hr.unique hr', ht.unique ht'] at hlt
          omega
      | sent hr' ht' hlt' => exact ⟨rfl, ht.unique ht'⟩

/-- One of the two fields is the nearest, and it is the one that is found. -/
theorem exists_nearest (last : List Char) :
    ∃ field n, Nearest last field n ∧ n = nameDistance (String.ofList last) field.name ∧
      nearest? (String.ofList last) [Field.received.name, Field.sent.name] = some field.name := by
  have hr : FieldDistance last .received _ := fieldDistance_iff.2 rfl
  have ht : FieldDistance last .sent _ := fieldDistance_iff.2 rfl
  by_cases h : nameDistance (String.ofList last) Field.sent.name <
      nameDistance (String.ofList last) Field.received.name
  · exact ⟨.sent, _, .sent hr ht h, rfl, congrArg some (if_pos h)⟩
  · exact ⟨.received, _, .received hr ht (Nat.le_of_not_lt h), rfl, congrArg some (if_neg h)⟩

/-! ### Characters of identifiers -/

theorem utf8Size_of_isIdentifier {c : Char} (h : isIdentifier c = true) : c.utf8Size = 1 := by
  have hupper (h : c.isUpper = true) : c.val ≤ 'Z'.val := (of_decide_eq_true h).2
  have hlower (h : c.isLower = true) : c.val ≤ 'z'.val :=
    of_decide_eq_true (Bool.and_eq_true_iff.1 h).2
  have hdigit (h : c.isDigit = true) : c.val ≤ '9'.val :=
    of_decide_eq_true (Bool.and_eq_true_iff.1 h).2
  rw [Char.utf8Size_eq_one_iff]
  simp only [isIdentifier, Char.isAlphanum, Bool.or_eq_true, beq_iff_eq] at h
  rcases h with (((h | h) | rfl) | rfl) | rfl
  · cases Bool.or_eq_true_iff.1 h with
    | inl h => exact UInt32.le_trans (hupper h) (by decide)
    | inr h => exact UInt32.le_trans (hlower h) (by decide)
  · exact UInt32.le_trans (hdigit h) (by decide)
  · decide
  · decide
  · decide

theorem byteLength_of_isIdentifier {cs : List Char} (h : ∀ c ∈ cs, isIdentifier c = true) :
    Text.byteLength cs = cs.length := by
  induction cs with
  | nil => rfl
  | cons c cs ih =>
      rw [List.forall_mem_cons] at h
      rw [Text.byteLength_cons, utf8Size_of_isIdentifier h.1, ih h.2, List.length_cons,
        Nat.add_comm]

/-! ### Proposals -/

theorem closeMatch?_eq_some {name : String} (hlast : ∀ c ∈ last, isIdentifier c = true)
    (hnearest : nearest? (String.ofList last) [Field.received.name, Field.sent.name] =
      some field.name) :
    closeMatch? (String.ofList last) [Field.received.name, Field.sent.name] = some name ↔
      field.name = name ∧ nameDistance (String.ofList last) field.name ≤
        max last.length field.name.length / 2 := by
  have hbytes : field.name.utf8ByteSize = field.name.length := by cases field <;> rfl
  rw [closeMatch?, hnearest, Option.filter_eq_some_iff, Option.some.injEq, Text.utf8ByteSize_ofList,
    byteLength_of_isIdentifier hlast, decide_eq_true_eq]
  refine and_congr_right fun hname => ?_
  rw [← hname, hbytes]

theorem proposed_iff :
    mendedVariable? v = some fixed ↔
      ∃ name, closeMatch? (String.ofList (lastSegment v)) [Field.received.name, Field.sent.name] =
          some name ∧
        String.ofList (lastSegment v) ≠ name ∧ withLastSegment v name = fixed ∧
        ∃ ref, VariableRef.parse fixed = .ok ref := by
  unfold mendedVariable?
  dsimp only
  cases closeMatch? (String.ofList (lastSegment v)) [Field.received.name, Field.sent.name] with
  | none => simp
  | some name =>
      by_cases hlast : String.ofList (lastSegment v) = name
      · simp [hlast]
      · cases hparse : VariableRef.parse (withLastSegment v name) with
        | error e =>
            simp only [hparse, bne_iff_ne, ne_eq, hlast, not_false_eq_true, if_true, reduceCtorEq,
              false_iff]
            rintro ⟨name', hname, -, rfl, ref, href⟩
            rw [← Option.some.inj hname, hparse] at href
            cases href
        | ok ref =>
            simp only [hparse, bne_iff_ne, ne_eq, hlast, not_false_eq_true, if_true,
              Option.some.injEq]
            constructor
            · rintro rfl
              exact ⟨name, rfl, hlast, rfl, ref, hparse⟩
            · rintro ⟨name', rfl, -, heq, -⟩
              exact heq

/-- A proposal is made exactly if it mends the variable. -/
theorem mendedVariable?_eq_some (hv : ∀ c ∈ v.toList, isIdentifier c = true) :
    mendedVariable? v = some fixed ↔ Mends v fixed := by
  obtain ⟨head, last, hends⟩ := exists_endsIn v
  obtain ⟨field, n, hnear, hn, hnearest⟩ := exists_nearest last
  rw [hends.text, List.forall_mem_append] at hv
  rw [proposed_iff, hends.lastSegment_eq]
  simp only [closeMatch?_eq_some hv.2 hnearest, hends.withLastSegment_eq]
  constructor
  · rintro ⟨name, ⟨rfl, hclose⟩, hne, rfl, href⟩
    rw [← hn] at hclose
    exact .intro head last field n hends hnear rfl (fun h => hne ((hends.eq_iff _).1 h)) href hclose
  · intro h
    -- There is one last segment and one nearest field, so these are the ones that were looked at.
    obtain ⟨head', last', field', m, hends', hnear', rfl, hne, href, hclose⟩ := h
    obtain rfl : last' = last := by rw [← hends'.lastSegment_eq, hends.lastSegment_eq]
    obtain rfl : head' = head := by
      have htext := hends'.text
      rwa [hends.text, List.append_cancel_right_eq, eq_comm] at htext
    obtain ⟨rfl, rfl⟩ := hnear'.unique hnear
    rw [hn] at hclose
    exact ⟨field'.name, ⟨rfl, hclose⟩, fun h => hne ((hends.eq_iff _).2 h), rfl, href⟩

/-! ### Words -/

theorem begins_of_parse {ref : VariableRef} (h : VariableRef.parse v = .ok ref) :
    ∃ r, v.toList = 'v' :: 'm' :: r := by
  rw [VariableRef.parse] at h
  split at h
  · next segments hsplit =>
    have htext : ['.'].intercalate (v.toList.splitOn '.') = v.toList :=
      List.intercalate_splitOn '.'
    rw [hsplit] at htext
    cases segments with
    | nil => exact ⟨[], htext.symm⟩
    | cons segment segments => exact ⟨_, htext.symm⟩
  · contradiction

theorem Mends.isIdentifier_of_mem (h : Mends v fixed) (hv : ∀ c ∈ v.toList, isIdentifier c = true) :
    ∀ c ∈ fixed.toList, isIdentifier c = true := by
  obtain ⟨head, last, field, n, hends, -, rfl, -, -, -⟩ := h
  have hname : field.name.toList.all isIdentifier = true := by cases field <;> decide
  rw [hends.text, List.forall_mem_append] at hv
  rw [String.toList_append, String.toList_ofList, List.forall_mem_append]
  exact ⟨hv.1, List.all_eq_true.1 hname⟩

/-- What mends a variable can be written in an expression. -/
theorem Mends.isWord (h : Mends v fixed) (hv : ∀ c ∈ v.toList, isIdentifier c = true) :
    IsWord fixed.toList := by
  have hall := h.isIdentifier_of_mem hv
  obtain ⟨head, last, field, n, hends, -, -, -, ⟨ref, href⟩, -⟩ := h
  obtain ⟨r, hr⟩ := begins_of_parse href
  refine ⟨?_, hall, ?_⟩
  · rw [hr]
    exact List.cons_ne_nil _ _
  · rw [hr]
    exact ⟨stops_cons.2 (by decide), fun r h => absurd (List.cons.inj h).1 (by decide)⟩

end AlertPolicy.Policy
