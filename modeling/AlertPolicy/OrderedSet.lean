/-!
Finite sets as strictly increasing lists. Two sets with the same elements are equal, and listing a
set gives its order, which is the order reports show.
-/

namespace AlertPolicy

structure OrderedSet (α : Type) [Ord α] where
  toList : List α
  increasing : toList.Pairwise fun a b => compare a b = .lt
  deriving DecidableEq

namespace OrderedSet

variable {α : Type} [Ord α]

def empty : OrderedSet α := ⟨[], .nil⟩

def isEmpty (s : OrderedSet α) : Bool := s.toList.isEmpty

/-- Puts an element in its place; an equal one that is already there is replaced. -/
def insertSorted (x : α) : List α → List α
  | [] => [x]
  | y :: ys =>
      match compare x y with
      | .lt => x :: y :: ys
      | .eq => x :: ys
      | .gt => y :: insertSorted x ys

theorem mem_of_mem_insertSorted {x a : α} {ys : List α} (h : a ∈ insertSorted x ys) :
    a = x ∨ a ∈ ys := by
  induction ys with
  | nil => simpa [insertSorted] using h
  | cons y ys ih =>
      simp only [insertSorted] at h
      split at h <;> simp only [List.mem_cons] at h ⊢
      · exact h
      · rcases h with h | h
        · exact .inl h
        · exact .inr (.inr h)
      · rcases h with h | h
        · exact .inr (.inl h)
        · exact (ih h).imp_right .inr

instance : Membership α (OrderedSet α) := ⟨fun s a => a ∈ s.toList⟩

theorem mem_toList {a : α} {s : OrderedSet α} : a ∈ s.toList ↔ a ∈ s := Iff.rfl

theorem mem_insertSorted [Std.LawfulEqOrd α] {x a : α} {ys : List α} :
    a ∈ insertSorted x ys ↔ a = x ∨ a ∈ ys := by
  refine ⟨mem_of_mem_insertSorted, fun h => ?_⟩
  induction ys with
  | nil => simpa [insertSorted] using h
  | cons y ys ih =>
      simp only [insertSorted]
      split
      next => simpa using h
      next hxy =>
        cases Std.LawfulEqCmp.eq_of_compare hxy
        simpa using h
      next =>
        simp only [List.mem_cons] at h ⊢
        rcases h with h | h | h
        · exact .inr (ih (.inl h))
        · exact .inl h
        · exact .inr (ih (.inr h))

variable [Std.TransOrd α] [Std.LawfulEqOrd α]

theorem increasing_insertSorted (x : α) {ys : List α}
    (h : ys.Pairwise fun a b => compare a b = .lt) :
    (insertSorted x ys).Pairwise fun a b => compare a b = .lt := by
  induction ys with
  | nil => simp [insertSorted]
  | cons y ys ih =>
      obtain ⟨hy, hys⟩ := List.pairwise_cons.1 h
      simp only [insertSorted]
      split
      next hxy =>
        refine List.pairwise_cons.2 ⟨fun a ha => ?_, h⟩
        rcases List.mem_cons.1 ha with rfl | ha
        · exact hxy
        · exact Std.TransCmp.lt_trans hxy (hy a ha)
      next hxy =>
        cases Std.LawfulEqCmp.eq_of_compare hxy
        exact h
      next hxy =>
        refine List.pairwise_cons.2 ⟨fun a ha => ?_, ih hys⟩
        rcases mem_of_mem_insertSorted ha with rfl | ha
        · exact Std.OrientedCmp.lt_of_gt hxy
        · exact hy a ha

def insert (x : α) (s : OrderedSet α) : OrderedSet α :=
  ⟨insertSorted x s.toList, increasing_insertSorted x s.increasing⟩

def ofList : List α → OrderedSet α
  | [] => empty
  | x :: xs => (ofList xs).insert x

theorem mem_ofList {a : α} {xs : List α} : a ∈ ofList xs ↔ a ∈ xs := by
  induction xs with
  | nil => exact Iff.rfl
  | cons x xs ih =>
      change a ∈ insertSorted x (ofList xs).toList ↔ _
      rw [mem_insertSorted, mem_toList, ih, List.mem_cons]

omit [Std.LawfulEqOrd α] in
theorem nodup_toList (s : OrderedSet α) : s.toList.Nodup := by
  refine s.increasing.imp ?_
  intro a b hlt heq
  subst heq
  simp at hlt

omit [Std.LawfulEqOrd α] in
/-- Sets with the same elements list them in the same order. -/
theorem eq_of_mem_iff {s t : OrderedSet α} (h : ∀ a, a ∈ s ↔ a ∈ t) : s = t := by
  have hperm : s.toList.Perm t.toList :=
    (List.perm_ext_iff_of_nodup s.nodup_toList t.nodup_toList).2 h
  have hlist : s.toList = t.toList := by
    refine hperm.eq_of_pairwise ?_ s.increasing t.increasing
    intro a b _ _ hab hba
    exact absurd hba (Std.OrientedCmp.not_lt_of_lt hab)
  cases s
  cases t
  cases hlist
  rfl

end OrderedSet

end AlertPolicy
