import AlertPolicy.Shutdown
import Mathlib.Data.List.Induction
import Mathlib.Logic.Relation

/-!
Families of shutdown handles, told from what was done with them. Handles are numbered in the order in
which they are made; a family is a first handle with all that are cloned from it, clones of clones
included. The bookkeeping of families agrees with this: it names a family by its first handle, and
has set its flag just if one of its handles was triggered.
-/

namespace AlertPolicy.Shutdown

/-- What all uses lead to, where there is no handle at first. -/
def after (us : List Use) : Shutdown := us.foldl use ⟨[], []⟩

theorem after_concat (us : List Use) (u : Use) : after (us ++ [u]) = (after us).use u := by
  simp [after]

/-! ### What was done -/

/-- How many handles there are after a use. One that does not exist cannot be cloned. -/
def madeBy (n : Nat) : Use → Nat
  | .create => n + 1
  | .clone i => if i < n then n + 1 else n
  | .trigger _ => n

def made (us : List Use) : Nat := us.foldl madeBy 0

/-- Something was done after what was done before it. -/
def Occurs (done : List Use → Use → Prop) (us : List Use) : Prop :=
  ∃ before u later, us = before ++ u :: later ∧ done before u

/-- The handle of that number was made without another. -/
def First (us : List Use) (i : Nat) : Prop :=
  Occurs (fun before u => u = .create ∧ i = made before) us

/-- The second handle was cloned from the first. -/
def Cloned (us : List Use) (i j : Nat) : Prop :=
  Occurs (fun before u => u = .clone i ∧ i < made before ∧ j = made before) us

/-- The handle of that number was triggered. -/
def Triggered (us : List Use) (i : Nat) : Prop :=
  Occurs (fun before u => u = .trigger i ∧ i < made before) us

/-- The second handle comes from the first, which is that of the family, by cloning. -/
def InFamily (us : List Use) (first i : Nat) : Prop :=
  First us first ∧ Relation.ReflTransGen (Cloned us) first i

def SameFamily (us : List Use) (i j : Nat) : Prop :=
  ∃ first, InFamily us first i ∧ InFamily us first j

theorem occurs_concat {done : List Use → Use → Prop} {us : List Use} {u : Use} :
    Occurs done (us ++ [u]) ↔ Occurs done us ∨ done us u := by
  constructor
  · intro ⟨before, u', later, heq, hdone⟩
    cases later using List.reverseRecOn with
    | nil =>
        obtain ⟨rfl, hu⟩ := List.append_inj' heq rfl
        cases hu
        exact .inr hdone
    | append_singleton later last =>
        rw [← List.cons_append, ← List.append_assoc] at heq
        exact .inl ⟨before, u', later, (List.append_inj' heq rfl).1, hdone⟩
  · intro h
    cases h with
    | inl h =>
        obtain ⟨before, u', later, rfl, hdone⟩ := h
        exact ⟨before, u', later ++ [u], by simp, hdone⟩
    | inr h => exact ⟨us, u, [], rfl, h⟩

theorem not_occurs_nil {done : List Use → Use → Prop} : ¬ Occurs done [] := by
  intro ⟨before, u, later, heq, _⟩
  simp at heq

theorem InFamily.concat {us : List Use} {r i : Nat} (h : InFamily us r i) (u : Use) :
    InFamily (us ++ [u]) r i := by
  refine ⟨occurs_concat.2 (.inl h.1), ?_⟩
  exact Relation.ReflTransGen.mono (fun _ _ hcloned => occurs_concat.2 (.inl hcloned)) _ _ h.2

/-! ### What is kept of it -/

theorem made_eq_length (us : List Use) : made us = (after us).families.length := by
  induction us using List.reverseRecOn with
  | nil => rfl
  | append_singleton us u ih =>
      have hmade : made (us ++ [u]) = madeBy (made us) u := by simp [made]
      rw [hmade, after_concat, ih]
      cases u with
      | create => simp [madeBy, use, create]
      | trigger i => rfl
      | clone i =>
          by_cases hi : i < (after us).families.length
          · simp [madeBy, use, clone, hi]
          · simp [madeBy, use, clone, hi]

/-- What holds once something was done, and goes on to hold, holds after all uses among which that
was done. -/
theorem Occurs.kept {done : List Use → Use → Prop} {P : Shutdown → Prop} {us : List Use}
    (hdone : ∀ before u, done before u → P ((after before).use u))
    (hkept : ∀ s u, P s → P (s.use u)) (h : Occurs done us) : P (after us) := by
  induction us using List.reverseRecOn with
  | nil => exact absurd h not_occurs_nil
  | append_singleton us u ih =>
      rw [after_concat]
      cases occurs_concat.1 h with
      | inl h => exact hkept _ u (ih h)
      | inr h => exact hdone us u h

theorem getElem?_families_use {s : Shutdown} {i r : Nat} (u : Use)
    (h : s.families[i]? = some r) : (s.use u).families[i]? = some r := by
  have hlt := (List.getElem?_eq_some_iff.1 h).1
  cases u with
  | create => rw [use, create, List.getElem?_append_left hlt, h]
  | clone j => rw [use, clone, List.getElem?_append_left hlt, h]
  | trigger j => exact h

theorem mem_triggeredFamilies_use {s : Shutdown} {r : Nat} (u : Use)
    (h : r ∈ s.triggeredFamilies) : r ∈ (s.use u).triggeredFamilies := by
  cases u with
  | create => exact h
  | clone j => exact h
  | trigger j => exact List.mem_append_right _ h

theorem last_of_getElem?_append {l : List Nat} {o : Option Nat} {i r : Nat}
    (h : (l ++ o.toList)[i]? = some r) (hi : ¬ i < l.length) : i = l.length ∧ o = some r := by
  rw [List.getElem?_append_right (Nat.le_of_not_lt hi)] at h
  cases o with
  | none => simp at h
  | some n =>
      have hlt := (List.getElem?_eq_some_iff.1 h).1
      simp only [Option.toList_some, List.length_singleton] at hlt
      have hlast : i = l.length := by omega
      rw [hlast, Nat.sub_self] at h
      exact ⟨hlast, h⟩

/-- A handle is in a family if the bookkeeping says so: the last one made is the first of its
family, or a clone of one that was in the family before. -/
theorem inFamily_of_families {us : List Use} {i r : Nat} (h : (after us).families[i]? = some r) :
    InFamily us r i := by
  induction us using List.reverseRecOn generalizing i r with
  | nil => simp [after] at h
  | append_singleton us u ih =>
      rw [after_concat] at h
      by_cases hi : i < (after us).families.length
      · have hold : (after us).families[i]? = some (after us).families[i] :=
          List.getElem?_eq_getElem hi
        cases h.symm.trans (getElem?_families_use u hold)
        exact (ih hold).concat u
      · cases u with
        | create =>
            obtain ⟨hlast, hfirst⟩ := last_of_getElem?_append (o := some _) h hi
            rw [Option.some.injEq] at hfirst
            subst hlast hfirst
            exact ⟨occurs_concat.2 (.inr ⟨rfl, (made_eq_length us).symm⟩), .refl⟩
        | clone k =>
            obtain ⟨hlast, hparent⟩ := last_of_getElem?_append h hi
            have hlt := (List.getElem?_eq_some_iff.1 hparent).1
            rw [← made_eq_length] at hlast hlt
            have hold := (ih hparent).concat (.clone k)
            exact ⟨hold.1, hold.2.tail (occurs_concat.2 (.inr ⟨rfl, hlt, hlast⟩))⟩
        | trigger k => exact absurd (List.getElem?_eq_some_iff.1 h).1 hi

theorem families_of_first {us : List Use} {r : Nat} (h : First us r) :
    (after us).families[r]? = some r := by
  refine h.kept (P := fun s => s.families[r]? = some r) ?_ fun s u => getElem?_families_use u
  rintro before u ⟨rfl, rfl⟩
  rw [made_eq_length, use, create, List.getElem?_concat_length]

theorem families_of_cloned {us : List Use} {i j : Nat} (h : Cloned us i j) :
    ∃ r, (after us).families[i]? = some r ∧ (after us).families[j]? = some r := by
  refine h.kept (P := fun s => ∃ r, s.families[i]? = some r ∧ s.families[j]? = some r) ?_ ?_
  · rintro before u ⟨rfl, hi, rfl⟩
    rw [made_eq_length] at hi ⊢
    have hparent := List.getElem?_eq_getElem hi
    refine ⟨_, getElem?_families_use _ hparent, ?_⟩
    rw [use, clone, hparent]
    exact List.getElem?_concat_length
  · intro s u ⟨r, hi, hj⟩
    exact ⟨r, getElem?_families_use u hi, getElem?_families_use u hj⟩

/-- The bookkeeping names the family of a handle by its first handle. -/
theorem getElem?_families_iff {us : List Use} {i r : Nat} :
    (after us).families[i]? = some r ↔ InFamily us r i := by
  constructor
  · exact inFamily_of_families
  · intro ⟨hfirst, hcloned⟩
    induction hcloned with
    | refl => exact families_of_first hfirst
    | tail _ hlast ih =>
        obtain ⟨r', hi, hj⟩ := families_of_cloned hlast
        rw [hj, ← hi, ih]

theorem sameFamily_iff {us : List Use} {i j : Nat} :
    SameFamily us i j ↔ ∃ r, (after us).families[i]? = some r ∧ (after us).families[j]? = some r := by
  simp only [SameFamily, getElem?_families_iff]

theorem mem_triggeredFamilies_iff {us : List Use} {r : Nat} :
    r ∈ (after us).triggeredFamilies ↔
      ∃ j, (after us).families[j]? = some r ∧ Triggered us j := by
  constructor
  · intro h
    induction us using List.reverseRecOn with
    | nil => simp [after] at h
    | append_singleton us u ih =>
        have hkept (h : r ∈ (after us).triggeredFamilies) :
            ∃ j, (after (us ++ [u])).families[j]? = some r ∧ Triggered (us ++ [u]) j := by
          obtain ⟨j, hj, htriggered⟩ := ih h
          rw [after_concat]
          exact ⟨j, getElem?_families_use u hj, occurs_concat.2 (.inl htriggered)⟩
        rw [after_concat] at h
        cases u with
        | create => exact hkept h
        | clone k => exact hkept h
        | trigger k =>
            cases List.mem_append.1 h with
            | inr h => exact hkept h
            | inl h =>
                have hk : (after us).families[k]? = some r := by simpa using h
                have hlt := (List.getElem?_eq_some_iff.1 hk).1
                rw [← made_eq_length] at hlt
                rw [after_concat]
                exact ⟨k, getElem?_families_use _ hk, occurs_concat.2 (.inr ⟨rfl, hlt⟩)⟩
  · intro ⟨j, hj, htriggered⟩
    obtain ⟨r', hj', hset⟩ : ∃ r', (after us).families[j]? = some r' ∧
        r' ∈ (after us).triggeredFamilies := by
      refine htriggered.kept
        (P := fun s => ∃ r', s.families[j]? = some r' ∧ r' ∈ s.triggeredFamilies) ?_ ?_
      · rintro before u ⟨rfl, hlt⟩
        rw [made_eq_length] at hlt
        have hfamily := List.getElem?_eq_getElem hlt
        exact ⟨_, hfamily, List.mem_append_left _ (by simp)⟩
      · intro s u ⟨r', hfamily, hset⟩
        exact ⟨r', getElem?_families_use u hfamily, mem_triggeredFamilies_use u hset⟩
    rw [hj, Option.some.injEq] at hj'
    rw [hj']
    exact hset

/-- The flag of a handle is set just if some handle of its family was triggered. -/
theorem isTriggered_after_iff {us : List Use} {i : Nat} :
    (after us).isTriggered i = true ↔ ∃ j, SameFamily us i j ∧ Triggered us j := by
  simp only [isTriggered, Option.any_eq_true, List.contains_iff_mem, mem_triggeredFamilies_iff,
    sameFamily_iff]
  constructor
  · intro h
    obtain ⟨r, hi, j, hj, htriggered⟩ := h
    exact ⟨j, ⟨r, hi, hj⟩, htriggered⟩
  · intro h
    obtain ⟨j, ⟨r, hi, hj⟩, htriggered⟩ := h
    exact ⟨r, hi, j, hj, htriggered⟩

/-- Only a trigger in its own family sets the flag of a handle. -/
theorem isTriggered_use_of_not_sameFamily {us : List Use} {u : Use} {i r : Nat}
    (hi : (after us).families[i]? = some r) (hu : ∀ j, u = .trigger j → ¬ SameFamily us i j) :
    ((after us).use u).isTriggered i = (after us).isTriggered i := by
  rw [isTriggered, isTriggered, getElem?_families_use u hi, hi, Option.any_some, Option.any_some,
    Bool.eq_iff_iff, List.contains_iff_mem, List.contains_iff_mem]
  cases u with
  | create => exact Iff.rfl
  | clone k => exact Iff.rfl
  | trigger j =>
      have hother : r ∉ (after us).families[j]?.toList := by
        rw [Option.mem_toList]
        exact fun hj => hu j rfl (sameFamily_iff.2 ⟨r, hi, hj⟩)
      rw [use, trigger, List.mem_append, or_iff_right hother]

end AlertPolicy.Shutdown
