import AlertPolicy.Proofs.Schedule.Lookup
import Mathlib.Data.List.Basic

/-!
The order in which groups are due. The entries of a schedule stand in no order of their own, but
their positions are the places of their groups in the document, and no two of them are the same; so
sorting by position gives the order of the document.
-/

namespace AlertPolicy.Schedule

open Policy Time

variable {s : Schedule} {groups : List Group}

/-- The entries in the order of the groups, each in the place of the last group of its name. -/
def inOrder (s : Schedule) (groups : List Group) : List ScheduleEntry :=
  groups.zipIdx.filterMap fun (g, i) => (s.get? g.name).filter fun e => e.position == i

/-- An entry stands at the place of a group of its name. -/
theorem Follows.group_at {e : ScheduleEntry} (h : s.Follows groups) (he : e ∈ s.entries) :
    ∃ g, groups[e.position]? = some g ∧ g.name = e.name ∧ e.period = periodOf g := by
  have hknown := h.known e.name
  rw [get?_of_mem h.distinct he] at hknown
  obtain ⟨⟨i, g⟩, hlast, heq⟩ := Option.map_eq_some_iff.1 hknown.symm
  obtain ⟨hmem, hname⟩ := mem_of_lastNamed hlast
  have hposition : i = e.position := congrArg Prod.fst heq
  have hperiod : periodOf g = e.period := congrArg Prod.snd heq
  subst hposition
  exact ⟨g, List.mem_zipIdx_iff_getElem?.1 hmem, hname, hperiod.symm⟩

theorem Follows.eq_of_position {a b : ScheduleEntry} (h : s.Follows groups) (ha : a ∈ s.entries)
    (hb : b ∈ s.entries) (heq : a.position = b.position) : a = b := by
  obtain ⟨g, hg, hname, -⟩ := h.group_at ha
  obtain ⟨g', hg', hname', -⟩ := h.group_at hb
  rw [heq, hg'] at hg
  cases hg
  have hget := get?_of_mem h.distinct ha
  rw [← hname, hname', get?_of_mem h.distinct hb] at hget
  exact (Option.some.inj hget).symm

theorem mem_inOrder {e : ScheduleEntry} (h : s.Follows groups) :
    e ∈ s.inOrder groups ↔ e ∈ s.entries := by
  rw [inOrder, List.mem_filterMap]
  constructor
  · intro ⟨⟨g, i⟩, _, hfound⟩
    exact mem_of_get? (Option.filter_eq_some_iff.1 hfound).1
  · intro he
    obtain ⟨g, hg, hname, -⟩ := h.group_at he
    refine ⟨(g, e.position), List.mem_zipIdx_iff_getElem?.2 hg, ?_⟩
    simp only [hname, get?_of_mem h.distinct he]
    exact Option.filter_eq_some_iff.2 ⟨rfl, beq_self_eq_true _⟩

theorem inOrder_increasing (s : Schedule) (groups : List Group) :
    (s.inOrder groups).Pairwise fun a b => a.position < b.position := by
  rw [inOrder, List.pairwise_filterMap]
  have hindices : groups.zipIdx.Pairwise fun a b => a.2 < b.2 := by
    rw [← List.pairwise_map (f := Prod.snd), List.zipIdx_map_snd]
    exact List.pairwise_lt_range'
  refine hindices.imp ?_
  intro (g, i) (h, j) hij a ha b hb
  have hfirst : a.position = i := eq_of_beq (Option.filter_eq_some_iff.1 ha).2
  have hsecond : b.position = j := eq_of_beq (Option.filter_eq_some_iff.1 hb).2
  rw [hfirst, hsecond]
  exact hij

theorem perm_inOrder (h : s.Follows groups) : s.entries.Perm (s.inOrder groups) := by
  have hentries : s.entries.Nodup := by
    have hnames := List.pairwise_map.1 h.distinct
    exact hnames.imp fun hne heq => hne (congrArg _ heq)
  have hordered : (s.inOrder groups).Nodup := by
    refine (inOrder_increasing s groups).imp ?_
    intro a b hlt heq
    rw [heq] at hlt
    exact Nat.lt_irrefl _ hlt
  refine (List.perm_ext_iff_of_nodup hentries hordered).2 ?_
  intro e
  exact (mem_inOrder h).symm

/-- Where all names differ, the entries are those of the groups, each with its own place. -/
theorem Follows.perm_of_nodup (h : s.Follows groups) (hd : (groups.map (·.name)).Nodup) :
    (s.entries.map fun e => (e.name, e.position, e.period)).Perm
      (groups.zipIdx.map fun (g, i) => (g.name, i, periodOf g)) := by
  have horder : (s.inOrder groups).map (fun e => (e.name, e.position, e.period)) =
      groups.zipIdx.map fun (g, i) => (g.name, i, periodOf g) := by
    rw [inOrder, List.map_filterMap, ← List.filterMap_eq_map']
    apply List.filterMap_congr
    intro (g, i) hmem
    have hknown := h.known g.name
    rw [lastNamed_of_mem hd hmem] at hknown
    obtain ⟨e, hget, heq⟩ := Option.map_eq_some_iff.1 hknown
    have hposition : e.position = i := congrArg Prod.fst heq
    have hperiod : e.period = periodOf g := congrArg Prod.snd heq
    simp [hget, hposition, hperiod, name_of_get? hget]
  rw [← horder]
  exact (perm_inOrder h).map _

theorem nodup_due (h : (s.entries.map (·.name)).Nodup) (now : Instant) : (s.due now).Nodup := by
  rw [due]
  refine ((List.mergeSort_perm _ _).map _).nodup_iff.2 ?_
  exact h.sublist (List.filter_sublist.map _)

theorem due_eq_inOrder (h : s.Follows groups) (now : Instant) :
    s.due now = ((s.inOrder groups).filter (·.isDue now)).map (·.name) := by
  rw [due, filter_shouldRun h.distinct]
  congr 1
  have hsorted : ((s.entries.filter (·.isDue now)).mergeSort fun a b =>
      a.position ≤ b.position).Pairwise fun a b => decide (a.position ≤ b.position) = true := by
    refine List.pairwise_mergeSort ?_ ?_ _
    · intro a b c hab hbc
      simp only [decide_eq_true_eq] at hab hbc ⊢
      omega
    · intro a b
      simp only [Bool.or_eq_true, decide_eq_true_eq]
      omega
  have hincreasing := (inOrder_increasing s groups).sublist
    (List.filter_sublist (p := (·.isDue now)))
  have hperm := (List.mergeSort_perm (s.entries.filter (·.isDue now))
    fun a b => a.position ≤ b.position).trans ((perm_inOrder h).filter (·.isDue now))
  -- Both lists are sorted by position and hold the same entries; since no two of these share a
  -- position, there is one such list only.
  refine List.Perm.eq_of_pairwise ?_ (hsorted.imp fun hle => of_decide_eq_true hle)
    (hincreasing.imp Nat.le_of_lt) hperm
  intro a b ha hb hab hba
  have ha' := (List.mem_filter.1 (hperm.mem_iff.1 ha)).1
  have hb' := (List.mem_filter.1 hb).1
  exact h.eq_of_position ((mem_inOrder h).1 ha') ((mem_inOrder h).1 hb') (Nat.le_antisymm hab hba)

theorem filterMap_zipIdx {α β : Type} {f : α × Nat → Option β} {k : α → Option β} {xs : List α}
    {n : Nat} (h : ∀ x i, (x, i) ∈ xs.zipIdx n → f (x, i) = k x) :
    (xs.zipIdx n).filterMap f = xs.filterMap k := by
  induction xs generalizing n with
  | nil => rfl
  | cons x xs ih =>
      have hrest := ih fun y i hy => h y i (List.mem_cons_of_mem _ hy)
      rw [List.zipIdx_cons, List.filterMap_cons, List.filterMap_cons, hrest,
        h x n List.mem_cons_self]

/-- Where all names differ, each group has the entry at its place. -/
theorem inOrder_of_nodup (h : s.Follows groups) (hd : (groups.map (·.name)).Nodup) :
    s.inOrder groups = groups.filterMap fun g => s.get? g.name := by
  refine filterMap_zipIdx ?_
  intro g i hmem
  have hknown := h.known g.name
  rw [lastNamed_of_mem hd hmem] at hknown
  obtain ⟨e, hget, heq⟩ := Option.map_eq_some_iff.1 hknown
  have hposition : e.position = i := congrArg Prod.fst heq
  simp only [hget]
  refine Option.filter_eq_some_iff.2 ⟨rfl, ?_⟩
  rw [hposition, beq_self_eq_true]

/-- A document whose names differ is run through in its own order. -/
theorem due_eq_filter (h : s.Follows groups) (hd : (groups.map (·.name)).Nodup) (now : Instant) :
    s.due now = (groups.filter fun g => s.shouldRun g.name now).map (·.name) := by
  rw [due_eq_inOrder h, inOrder_of_nodup h hd]
  clear h hd
  induction groups with
  | nil => rfl
  | cons g gs ih =>
      cases hget : s.get? g.name with
      | none =>
          have hwait : s.shouldRun g.name now = false := by rw [shouldRun, hget, Option.any_none]
          rw [List.filterMap_cons, hget, List.filter_cons_of_neg (by simp [hwait]), ih]
      | some e =>
          rw [List.filterMap_cons, hget, List.filter_cons, List.filter_cons, shouldRun_of_get? hget]
          split
          · rw [List.map_cons, List.map_cons, ih, name_of_get? hget]
          · exact ih

end AlertPolicy.Schedule
