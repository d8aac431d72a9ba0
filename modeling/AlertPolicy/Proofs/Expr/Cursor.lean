import AlertPolicy.Expr.Grammar

/-!
Cursors on a text that is given as a concatenation. A predicate on characters cuts a text at one
place only: behind all characters that satisfy it, in front of one that does not or of the end.
-/

namespace AlertPolicy.Expr

open AlertPolicy.Text

/-- The text does not begin with a character that satisfies `p`. -/
def Stops (p : Char → Bool) (cs : List Char) : Prop := ∀ c ∈ cs.head?, p c = false

variable {p q : Char → Bool}

theorem stops_nil : Stops p [] := by simp [Stops]

theorem stops_cons {c : Char} {cs : List Char} : Stops p (c :: cs) ↔ p c = false := by
  simp [Stops]

theorem exists_cons_of_not_stops {c : Char} {cs : List Char} (h : ¬ Stops (· == c) cs) :
    ∃ r, cs = c :: r := by
  cases cs with
  | nil => exact absurd stops_nil h
  | cons d r => exact ⟨r, by simpa [stops_cons] using h⟩

theorem stops_append {cs ds : List Char} (hc : Stops p cs) (hd : Stops p ds) :
    Stops p (cs ++ ds) := by
  cases cs with
  | nil => exact hd
  | cons c cs => exact stops_cons.2 (stops_cons.1 hc)

theorem stops_of_append {cs ds : List Char} (h : Stops p (cs ++ ds)) : Stops p cs := by
  cases cs with
  | nil => exact stops_nil
  | cons c cs => exact stops_cons.2 (stops_cons.1 h)

theorem Stops.mono {cs : List Char} (h : Stops q cs) (hpq : ∀ c, p c = true → q c = true) :
    Stops p cs := by
  intro c hc
  have hq := h c hc
  cases hp : p c with
  | false => rfl
  | true => rw [hpq c hp] at hq; contradiction

theorem exists_cut (p : Char → Bool) (cs : List Char) :
    ∃ taken rest, cs = taken ++ rest ∧ (∀ c ∈ taken, p c = true) ∧ Stops p rest := by
  induction cs with
  | nil => exact ⟨[], [], rfl, by simp, stops_nil⟩
  | cons c cs ih =>
      cases hc : p c with
      | false => exact ⟨[], c :: cs, rfl, by simp, stops_cons.2 hc⟩
      | true =>
          obtain ⟨taken, rest, h, htaken, hrest⟩ := ih
          refine ⟨c :: taken, rest, by rw [h, List.cons_append], ?_, hrest⟩
          intro d hd
          cases List.mem_cons.1 hd with
          | inl h => rw [h, hc]
          | inr h => exact htaken d h

theorem takeWhile_append_of_stops {taken rest : List Char} (ht : ∀ c ∈ taken, p c = true)
    (hr : Stops p rest) : (taken ++ rest).takeWhile p = taken := by
  rw [List.takeWhile_append_of_pos ht]
  cases rest with
  | nil => simp
  | cons c cs => simp [stops_cons.1 hr]

theorem dropWhile_append_of_stops {taken rest : List Char} (ht : ∀ c ∈ taken, p c = true)
    (hr : Stops p rest) : (taken ++ rest).dropWhile p = rest := by
  rw [List.dropWhile_append_of_pos ht]
  cases rest with
  | nil => simp
  | cons c cs => simp [stops_cons.1 hr]

/-- There is one cut at which all before it satisfies `p` and what follows does not. -/
theorem cut_unique {taken rest taken' rest' : List Char} (ht : ∀ c ∈ taken, p c = true)
    (hr : Stops p rest) (ht' : ∀ c ∈ taken', p c = true) (hr' : Stops p rest')
    (h : taken ++ rest = taken' ++ rest') : taken = taken' ∧ rest = rest' := by
  constructor
  · rw [← takeWhile_append_of_stops ht hr, h, takeWhile_append_of_stops ht' hr']
  · rw [← dropWhile_append_of_stops ht hr, h, dropWhile_append_of_stops ht' hr']

namespace Cursor

/-- The cursor that began at `n` when it is past the characters `taken`, with `rest` left. -/
def past (n : Nat) (taken rest : List Char) : Cursor := ⟨n + byteLength taken, rest⟩

variable (n : Nat) {xs ys taken rest : List Char} {c : Char}

theorem le_offset_past : n ≤ (past n xs rest).offset := Nat.le_add_right n _

theorem offset_past_le : (past n xs rest).offset ≤ (past n (xs ++ ys) taken).offset := by
  simp only [past, byteLength_append]
  omega

theorem offset_past_lt (h : ys ≠ []) :
    (past n xs rest).offset < (past n (xs ++ ys) taken).offset := by
  have hlength : 0 < ys.length := List.length_pos_iff.2 h
  have hbytes := length_le_byteLength ys
  simp only [past, byteLength_append]
  omega

theorem offset_past_ne (h : ys ≠ []) :
    ¬ (past n (xs ++ ys) rest).offset = (past n xs taken).offset :=
  Nat.ne_of_gt (offset_past_lt n h)

theorem skip?_past : skip? c (past n xs (c :: rest)) = some (past n (xs ++ [c]) rest) := by
  simp [skip?, past, Nat.add_assoc]

theorem skip?_past_of_stops (h : Stops (· == c) rest) : skip? c (past n xs rest) = none := by
  cases rest with
  | nil => rfl
  | cons d rest =>
      have hne : d ≠ c := by simpa using stops_cons.1 h
      simp [skip?, past, hne]

theorem skipWhile_past (ht : ∀ c ∈ taken, p c = true) (hr : Stops p rest) :
    skipWhile p (past n xs (taken ++ rest)) = past n (xs ++ taken) rest := by
  simp only [skipWhile, past, takeWhile_append_of_stops ht hr, dropWhile_append_of_stops ht hr,
    byteLength_append, Nat.add_assoc]

theorem skipWhile_past_of_stops (hr : Stops p rest) :
    skipWhile p (past n xs rest) = past n xs rest := by
  have hnone : ∀ c ∈ ([] : List Char), p c = true := by simp
  have h : skipWhile p (past n xs ([] ++ rest)) = past n (xs ++ []) rest :=
    skipWhile_past n hnone hr
  rwa [List.nil_append, List.append_nil] at h

theorem spanTo_past :
    spanTo (past n xs (ys ++ rest)) (past n (xs ++ ys) rest) = ⟨n + byteLength xs, ys⟩ := by
  simp [spanTo, past]

end Cursor

end AlertPolicy.Expr
