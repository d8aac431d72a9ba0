import AlertPolicy.Text.EditDistance
import Mathlib.Order.Bounds.Basic
import Mathlib.Order.MinMax

/-!
Edit scripts and the edit distance. A script is any number of single edits at any places, one after
the other; the distance is the length of the shortest script. It follows a recursion over the first
elements, and a row of the computation holds it for one prefix and all prefixes of the other list,
read from their ends. Of a row that is being filled only the entries written so far are known; those
after them are never read before they are written.
-/

namespace AlertPolicy.Text

variable {α : Type} {n : Nat} {a b c : List α}

/-- One element is inserted, deleted or substituted. -/
inductive Edit : List α → List α → Prop where
  | insert (front back : List α) (y : α) : Edit (front ++ back) (front ++ y :: back)
  | delete (front back : List α) (x : α) : Edit (front ++ x :: back) (front ++ back)
  | substitute (front back : List α) (x y : α) : Edit (front ++ x :: back) (front ++ y :: back)

/-- The first list is turned into the second by as many edits. -/
inductive Edits : Nat → List α → List α → Prop where
  | none (a : List α) : Edits 0 a a
  | more {n : Nat} {a b c : List α} (h : Edits n a b) (e : Edit b c) : Edits (n + 1) a c

/-! ### Scripts -/

theorem Edit.cons (h : Edit a b) (x : α) : Edit (x :: a) (x :: b) := by
  cases h with
  | insert front back y => exact .insert (x :: front) back y
  | delete front back y => exact .delete (x :: front) back y
  | substitute front back y z => exact .substitute (x :: front) back y z

theorem Edit.reverse (h : Edit a b) : Edit a.reverse b.reverse := by
  cases h with
  | insert front back y => simpa using Edit.insert back.reverse front.reverse y
  | delete front back y => simpa using Edit.delete back.reverse front.reverse y
  | substitute front back y z => simpa using Edit.substitute back.reverse front.reverse y z

theorem Edits.cons (h : Edits n a b) (x : α) : Edits n (x :: a) (x :: b) := by
  induction h with
  | none a => exact .none (x :: a)
  | more h e ih => exact .more ih (e.cons x)

theorem Edits.reverse (h : Edits n a b) : Edits n a.reverse b.reverse := by
  induction h with
  | none a => exact .none a.reverse
  | more h e ih => exact .more ih e.reverse

theorem edits_reverse_iff : Edits n a.reverse b.reverse ↔ Edits n a b := by
  refine ⟨fun h => ?_, .reverse⟩
  have hback := h.reverse
  rwa [List.reverse_reverse, List.reverse_reverse] at hback

theorem Edits.insert (h : Edits n a b) (y : α) : Edits (n + 1) a (y :: b) :=
  .more h (.insert [] b y)

theorem Edits.delete (h : Edits n a b) (x : α) : Edits (n + 1) (x :: a) b :=
  .more (h.cons x) (.delete [] b x)

theorem Edits.substitute (h : Edits n a b) (x y : α) : Edits (n + 1) (x :: a) (y :: b) :=
  .more (h.cons x) (.substitute [] b x y)

theorem Edit.symm (h : Edit a b) : Edit b a := by
  cases h with
  | insert front back y => exact .delete front back y
  | delete front back x => exact .insert front back x
  | substitute front back x y => exact .substitute front back y x

theorem Edits.trans {m : Nat} (h : Edits n a b) (h' : Edits m b c) : Edits (n + m) a c := by
  induction h' with
  | none b => exact h
  | more _ e ih => exact .more (ih h) e

theorem Edits.symm (h : Edits n a b) : Edits n b a := by
  induction h with
  | none a => exact .none a
  | @more n a b c _ e ih =>
      have hlast : Edits 1 c b := .more (.none c) e.symm
      rw [Nat.add_comm]
      exact hlast.trans ih

theorem edits_zero_iff : Edits 0 a b ↔ a = b := by
  constructor
  · intro h
    cases h with
    | none a => rfl
  · rintro rfl
    exact .none a

/-! ### The recursion -/

variable [DecidableEq α]

/-- The distance, by what is done with the first elements: one is inserted or deleted, or the one
takes the place of the other. -/
def distance : List α → List α → Nat
  | [], b => b.length
  | _ :: a, [] => a.length + 1
  | x :: a, y :: b =>
      min (min (distance a (y :: b) + 1) (distance (x :: a) b + 1))
        (distance a b + if x = y then 0 else 1)
  termination_by a b => a.length + b.length

theorem distance_nil (b : List α) : distance [] b = b.length := by rw [distance]

theorem distance_cons_nil (x : α) (a : List α) : distance (x :: a) [] = a.length + 1 := by
  rw [distance]

theorem distance_nil_right (a : List α) : distance a [] = a.length := by
  cases a with
  | nil => exact distance_nil []
  | cons x a => exact distance_cons_nil x a

theorem distance_cons (x y : α) (a b : List α) :
    distance (x :: a) (y :: b) =
      min (min (distance a (y :: b) + 1) (distance (x :: a) b + 1))
        (distance a b + if x = y then 0 else 1) := by
  rw [distance]

/-- There is a script as long as the distance. -/
theorem edits_distance (a b : List α) : Edits (distance a b) a b := by
  fun_induction distance a b with
  | case1 b =>
      induction b with
      | nil => exact .none []
      | cons y b ih => exact ih.insert y
  | case2 x a =>
      have hall (a : List α) : Edits a.length a [] := by
        induction a with
        | nil => exact .none []
        | cons x a ih => exact ih.delete x
      exact hall (x :: a)
  | case3 x a y b ihdelete ihinsert ihboth =>
      rcases min_choice (min (distance a (y :: b) + 1) (distance (x :: a) b + 1))
        (distance a b + if x = y then 0 else 1) with h | h
      · rcases min_choice (distance a (y :: b) + 1) (distance (x :: a) b + 1) with h' | h'
        · rw [h, h']
          exact ihdelete.delete x
        · rw [h, h']
          exact ihinsert.insert y
      · rw [h]
        split
        · next heq =>
          subst heq
          exact ihboth.cons x
        · exact ihboth.substitute x y

theorem distance_cons_le (x : α) (a b : List α) : distance (x :: a) b ≤ distance a b + 1 := by
  cases b with
  | nil => rw [distance_cons_nil, distance_nil_right]
  | cons y b =>
      rw [distance_cons]
      omega

/-- If the second list comes no farther than one step from any list, neither does it with an element
put before it. -/
theorem distance_cons_cons_le (h : ∀ a, distance a c ≤ distance a b + 1) (z : α) (a : List α) :
    distance a (z :: c) ≤ distance a (z :: b) + 1 := by
  induction a with
  | nil =>
      have hnil := h []
      rw [distance_nil, distance_nil] at hnil ⊢
      simpa using hnil
  | cons x a ih =>
      have hrest := h a
      have hall := h (x :: a)
      rw [distance_cons, distance_cons]
      omega

theorem distance_append_le (h : ∀ a, distance a c ≤ distance a b + 1) (front : List α)
    (a : List α) : distance a (front ++ c) ≤ distance a (front ++ b) + 1 := by
  induction front generalizing a with
  | nil => exact h a
  | cons z front ih => exact distance_cons_cons_le ih z a

theorem distance_insert_le (y : α) (a b : List α) : distance a (y :: b) ≤ distance a b + 1 := by
  cases a with
  | nil => rw [distance_nil, distance_nil, List.length_cons]
  | cons x a =>
      rw [distance_cons]
      omega

theorem distance_delete_le (y : α) (a b : List α) : distance a b ≤ distance a (y :: b) + 1 := by
  induction a with
  | nil =>
      rw [distance_nil, distance_nil, List.length_cons]
      omega
  | cons x a ih =>
      have hcons := distance_cons_le x a b
      rw [distance_cons]
      omega

theorem distance_substitute_le (x y : α) (a b : List α) :
    distance a (y :: b) ≤ distance a (x :: b) + 1 := by
  induction a with
  | nil =>
      rw [distance_nil, distance_nil, List.length_cons, List.length_cons]
      omega
  | cons z a ih =>
      rw [distance_cons, distance_cons]
      split <;> split <;> omega

/-- One edit brings a list at most one step farther away. -/
theorem distance_le_of_edit (h : Edit b c) (a : List α) : distance a c ≤ distance a b + 1 := by
  cases h with
  | insert front back y => exact distance_append_le (fun a => distance_insert_le y a back) front a
  | delete front back x => exact distance_append_le (fun a => distance_delete_le x a back) front a
  | substitute front back x y =>
      exact distance_append_le (fun a => distance_substitute_le x y a back) front a

theorem distance_self (a : List α) : distance a a = 0 := by
  induction a with
  | nil => exact distance_nil []
  | cons x a ih =>
      rw [distance_cons, ih, if_pos rfl]
      omega

theorem distance_le_of_edits (h : Edits n a b) : distance a b ≤ n := by
  -- The last edit is taken off, so that the first list stays the same throughout.
  induction h with
  | none a => exact Nat.le_of_eq (distance_self a)
  | @more n a b c h e ih =>
      have hstep := distance_le_of_edit e a
      omega

theorem distance_isLeast (a b : List α) : IsLeast {n | Edits n a b} (distance a b) :=
  ⟨edits_distance a b, fun _ h => distance_le_of_edits h⟩

/-! ### Rows -/

/-- The distance between the first `i` elements of `a` and the first `j` of `b`. A prefix grows at
its end, and so it is read from there. -/
def prefixDistance (a b : List α) (i j : Nat) : Nat :=
  distance (a.take i).reverse (b.take j).reverse

theorem prefixDistance_zero_left {j : Nat} (hj : j ≤ b.length) : prefixDistance a b 0 j = j := by
  simp [prefixDistance, distance_nil, hj]

theorem prefixDistance_zero_right {i : Nat} (hi : i ≤ a.length) : prefixDistance a b i 0 = i := by
  simp [prefixDistance, distance_nil_right, hi]

omit [DecidableEq α] in
theorem reverse_take_succ {i : Nat} (hi : i < a.length) :
    (a.take (i + 1)).reverse = a[i] :: (a.take i).reverse := by
  rw [List.take_succ_eq_append_getElem hi, List.reverse_concat]

theorem prefixDistance_succ {i j : Nat} (hi : i < a.length) (hj : j < b.length) :
    prefixDistance a b (i + 1) (j + 1) =
      min (min (prefixDistance a b i (j + 1) + 1) (prefixDistance a b (i + 1) j + 1))
        (prefixDistance a b i j + if a[i] = b[j] then 0 else 1) := by
  simp only [prefixDistance, reverse_take_succ hi, reverse_take_succ hj]
  exact distance_cons _ _ _ _

/-- The row for the first `i` elements. -/
def row (a b : List α) (i : Nat) : List Nat :=
  (List.range (b.length + 1)).map (prefixDistance a b i)

theorem getElem?_row {i j : Nat} (hj : j ≤ b.length) :
    (row a b i)[j]? = some (prefixDistance a b i j) := by
  have hrange : (List.range (b.length + 1))[j]? = some j := List.getElem?_range (by omega)
  rw [row, List.getElem?_map, hrange, Option.map_some]

theorem length_row (a b : List α) (i : Nat) : (row a b i).length = b.length + 1 := by simp [row]

theorem eq_row {r : List Nat} {i : Nat} (hwidth : r.length = b.length + 1)
    (h : ∀ j ≤ b.length, r[j]? = some (prefixDistance a b i j)) : r = row a b i := by
  refine List.ext_getElem? fun j => ?_
  by_cases hj : j ≤ b.length
  · rw [h j hj, getElem?_row hj]
  · rw [List.getElem?_eq_none (by omega), List.getElem?_eq_none (by rw [length_row]; omega)]

/-- A loop over a range goes through if each step does, from one stage of an invariant to the
next. -/
theorem exists_foldlM_range {σ : Type} {f : σ → Nat → Option σ} {P : Nat → σ → Prop} {n : Nat}
    {s : σ} (hstep : ∀ k < n, ∀ s, P k s → ∃ s', f s k = some s' ∧ P (k + 1) s') (h : P 0 s) :
    ∃ s', (List.range n).foldlM f s = some s' ∧ P n s' := by
  induction n with
  | zero => exact ⟨s, rfl, h⟩
  | succ n ih =>
      obtain ⟨s', hrun, hs'⟩ := ih fun k hk => hstep k (by omega)
      obtain ⟨s'', hlast, hs''⟩ := hstep n (by omega) s' hs'
      refine ⟨s'', ?_, hs''⟩
      rw [List.range_succ, List.foldlM_append, hrun]
      simpa using hlast

namespace Rows

variable {r : Rows} {i j entry : Nat}

/-- Between two rows: the row above is the one for the first `i` elements. The other one is as wide,
and nothing is asked of what it holds. -/
structure Between (a b : List α) (i : Nat) (r : Rows) : Prop where
  above : r.above = row a b i
  width : r.current.length = b.length + 1

/-- Within a row: the entries of the next row are there up to the `j`-th. Those after it are left
over, and nothing is asked of them. -/
structure Within (a b : List α) (i j : Nat) (r : Rows) : Prop extends Between a b i r where
  entries : ∀ k ≤ j, r.current[k]? = some (prefixDistance a b (i + 1) k)

theorem write?_of_lt (h : j < r.current.length) :
    r.write? j entry = some { r with current := r.current.set j entry } := if_pos h

theorem exists_write? (h : Between a b i r) (hj : j ≤ b.length)
    (hbefore : ∀ k < j, r.current[k]? = some (prefixDistance a b (i + 1) k))
    (hentry : entry = prefixDistance a b (i + 1) j) :
    ∃ r', r.write? j entry = some r' ∧ Within a b i j r' := by
  have hwidth := h.width
  have hlt : j < r.current.length := by omega
  refine ⟨_, write?_of_lt hlt, ⟨h.above, ?_⟩, fun k hk => ?_⟩
  · rw [List.length_set, hwidth]
  · rcases Nat.lt_or_eq_of_le hk with hk | rfl
    · rw [List.getElem?_set_ne (by omega), hbefore k hk]
    · rw [List.getElem?_set_self hlt, hentry]

theorem exists_fill? (h : Within a b i j r) (hi : i < a.length) (hj : j < b.length) :
    ∃ r', fill? a b i r j = some r' ∧ Within a b i (j + 1) r' := by
  have hupper : r.above[j + 1]? = some (prefixDistance a b i (j + 1)) := by
    rw [h.above, getElem?_row (by omega)]
  have hdiagonal : r.above[j]? = some (prefixDistance a b i j) := by
    rw [h.above, getElem?_row (by omega)]
  have hleft : r.current[j]? = some (prefixDistance a b (i + 1) j) := h.entries j (Nat.le_refl j)
  have hbefore : ∀ k < j + 1, r.current[k]? = some (prefixDistance a b (i + 1) k) :=
    fun k hk => h.entries k (by omega)
  obtain ⟨r', hwrite, hwithin⟩ :=
    exists_write? h.toBetween (by omega) hbefore (prefixDistance_succ hi hj).symm
  refine ⟨r', ?_, hwithin⟩
  rw [fill?, List.getElem?_eq_getElem hi, List.getElem?_eq_getElem hj, hupper, hleft, hdiagonal]
  exact hwrite

theorem exists_next? (h : Between a b i r) (hi : i < a.length) :
    ∃ r', next? a b r i = some r' ∧ Between a b (i + 1) r' := by
  obtain ⟨begun, hbegun, hfirst⟩ : ∃ r', r.write? 0 (i + 1) = some r' ∧ Within a b i 0 r' :=
    exists_write? h (Nat.zero_le _) (by simp) (prefixDistance_zero_right hi).symm
  obtain ⟨filled, hfilled, hlast⟩ := exists_foldlM_range (P := fun j => Within a b i j)
    (fun j hj r hr => exists_fill? hr hi hj) hfirst
  refine ⟨⟨filled.current, filled.above⟩, ?_, eq_row hlast.width hlast.entries, ?_⟩
  · rw [next?, hbegun]
    simp [hfilled]
  · rw [hlast.above, length_row]

theorem between_start (a b : List α) :
    Between a b 0 ⟨List.range (b.length + 1), List.replicate (b.length + 1) 0⟩ := by
  refine ⟨eq_row (by simp) fun j hj => ?_, by simp⟩
  rw [List.getElem?_range (by omega), prefixDistance_zero_left hj]

end Rows

theorem editDistance?_eq (a b : List α) :
    editDistance? a b = some (distance a.reverse b.reverse) := by
  obtain ⟨r, hrun, hlast⟩ := exists_foldlM_range (P := Rows.Between a b)
    (fun i hi r hr => Rows.exists_next? hr hi) (Rows.between_start a b)
  rw [editDistance?, hrun]
  simp [hlast.above, getElem?_row, prefixDistance]

theorem editDistance_eq (a b : List α) : editDistance a b = distance a.reverse b.reverse := by
  rw [editDistance, editDistance?_eq, Option.getD_some]

/-- The computed distance is the length of the shortest edit script. -/
theorem editDistance_isLeast (a b : List α) : IsLeast {n | Edits n a b} (editDistance a b) := by
  have hleast := distance_isLeast a.reverse b.reverse
  rw [← editDistance_eq] at hleast
  simpa only [edits_reverse_iff] using hleast

theorem editDistance_le (h : Edits n a b) : editDistance a b ≤ n := (editDistance_isLeast a b).2 h

theorem editDistance_le_comm (a b : List α) : editDistance a b ≤ editDistance b a :=
  editDistance_le (editDistance_isLeast b a).1.symm

theorem editDistance_eq_zero_iff : editDistance a b = 0 ↔ a = b := by
  rw [← edits_zero_iff]
  constructor
  · intro h
    rw [← h]
    exact (editDistance_isLeast a b).1
  · intro h
    exact Nat.le_zero.1 (editDistance_le h)

/-- The computation in two rows always comes to its end without an access out of range, and what it
gives is the length of the shortest edit script. So texts are equal just if they are no edit apart,
the distance is the same in both directions, and a detour makes it no shorter. -/
theorem edit_distance_is_metric (s t u : String) :
    editDistance? s.toList t.toList = some (editDistance s.toList t.toList) ∧
      IsLeast {n | Edits n s.toList t.toList} (editDistance s.toList t.toList) ∧
      (editDistance s.toList t.toList = 0 ↔ s = t) ∧
      editDistance s.toList t.toList = editDistance t.toList s.toList ∧
      editDistance s.toList u.toList ≤
        editDistance s.toList t.toList + editDistance t.toList u.toList := by
  refine ⟨?_, editDistance_isLeast _ _, ?_, ?_, ?_⟩
  · rw [editDistance?_eq, ← editDistance_eq]
  · rw [editDistance_eq_zero_iff, String.toList_inj]
  · exact Nat.le_antisymm (editDistance_le_comm _ _) (editDistance_le_comm _ _)
  · have hthere := (editDistance_isLeast s.toList t.toList).1
    have hon := (editDistance_isLeast t.toList u.toList).1
    exact editDistance_le (hthere.trans hon)

example : editDistance? "kitten".toList "sitting".toList = some 3 := by decide +kernel

end AlertPolicy.Text
