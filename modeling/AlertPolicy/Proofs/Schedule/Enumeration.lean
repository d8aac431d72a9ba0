import AlertPolicy.Proofs.Schedule.Order

/-!
Schedules whose entries come in any order. Nothing that is asked of a schedule depends on how its
entries are listed: each is known by its name and sorted by its position, and of neither do two
entries share one, whatever lists of groups the schedule was brought in line with before.
-/

namespace AlertPolicy.Schedule

open Policy Time

/-- The schedule can come about, and these are the groups it was last brought in line with. At any
moment its entries may come to be listed in another order. -/
inductive Kept : List Group → Schedule → Prop where
  | empty : Kept [] .empty
  | sync {old : List Group} {s : Schedule} (h : Kept old s) (groups : List Group) :
      Kept groups (s.sync groups)
  | recordRun {groups : List Group} {s : Schedule} (h : Kept groups s) (name : String)
      (time : Instant) : Kept groups (s.recordRun name time)
  | reordered {groups : List Group} {s : Schedule} {es : List ScheduleEntry} (h : Kept groups s)
      (hperm : es.Perm s.entries) : Kept groups ⟨es⟩

/-- The last group of the name stands at the index. -/
structure LastAt (groups : List Group) (name : String) (i : Nat) (g : Group) : Prop where
  at_index : groups[i]? = some g
  named : g.name = name
  last : ∀ j g', groups[j]? = some g' → g'.name = name → j ≤ i

variable {groups : List Group} {s : Schedule} {es : List ScheduleEntry}

/-! ### Last groups -/

theorem lastAt_of_lastNamed {name : String} {k i : Nat} {g : Group}
    (h : lastNamed name k groups = some (i, g)) : ∃ d, i = k + d ∧ LastAt groups name d g := by
  induction groups generalizing k with
  | nil => contradiction
  | cons x xs ih =>
      rw [lastNamed, Option.or_eq_some_iff] at h
      rcases h with hlater | ⟨hnone, hhere⟩
      · obtain ⟨d, rfl, hlast⟩ := ih hlater
        refine ⟨d + 1, by omega, hlast.at_index, hlast.named, ?_⟩
        intro j g' hj hname
        cases j with
        | zero => exact Nat.zero_le _
        | succ j => exact Nat.succ_le_succ (hlast.last j g' hj hname)
      · split at hhere
        · next hx =>
          cases hhere
          refine ⟨0, rfl, rfl, hx, ?_⟩
          intro j g' hj hname
          cases j with
          | zero => exact Nat.le_refl 0
          | succ j =>
              have hmem : g' ∈ xs := List.mem_of_getElem? hj
              exact absurd (hname ▸ List.mem_map_of_mem hmem) (lastNamed_eq_none.1 hnone)
        · contradiction

theorem periodOf_eq (g : Group) : periodOf g = g.interval.bind Duration.parse? := by
  rw [periodOf, Group.period]
  cases g.interval with
  | none => rfl
  | some raw =>
      rw [Option.bind_some]
      cases h : Duration.parse? raw with
      | none => simp only [h]
      | some d => simp only [h]

/-- An entry holds the place and the interval of the last group of its name. -/
theorem Follows.lastAt {e : ScheduleEntry} (h : s.Follows groups) (he : e ∈ s.entries) :
    ∃ g, LastAt groups e.name e.position g ∧ e.period = periodOf g := by
  have hknown := h.known e.name
  rw [get?_of_mem h.distinct he] at hknown
  obtain ⟨⟨i, g⟩, hlast, heq⟩ := Option.map_eq_some_iff.1 hknown.symm
  have hposition : i = e.position := congrArg Prod.fst heq
  have hperiod : periodOf g = e.period := congrArg Prod.snd heq
  obtain ⟨d, hd, hat⟩ := lastAt_of_lastNamed hlast
  rw [Nat.zero_add] at hd
  rw [← hd, hposition] at hat
  exact ⟨g, hat, hperiod.symm⟩

/-! ### Other orders -/

theorem nodup_names_of_perm (hd : (s.entries.map (·.name)).Nodup) (hperm : es.Perm s.entries) :
    (es.map (·.name)).Nodup :=
  (hperm.map _).nodup_iff.2 hd

theorem get?_of_perm (hd : (s.entries.map (·.name)).Nodup) (hperm : es.Perm s.entries)
    (name : String) : (⟨es⟩ : Schedule).get? name = s.get? name := by
  cases hget : s.get? name with
  | some e =>
      have hmem : e ∈ es := hperm.mem_iff.2 (mem_of_get? hget)
      rw [← name_of_get? hget]
      exact get?_of_mem (s := ⟨es⟩) (nodup_names_of_perm hd hperm) hmem
  | none =>
      rw [get?, List.find?_eq_none] at hget
      refine List.find?_eq_none.2 fun e he => hget e (hperm.mem_iff.1 he)

theorem Follows.of_perm (h : s.Follows groups) (hperm : es.Perm s.entries) :
    (⟨es⟩ : Schedule).Follows groups := by
  refine ⟨nodup_names_of_perm h.distinct hperm, fun name => ?_⟩
  rw [get?_of_perm h.distinct hperm, h.known name]

theorem Kept.follows (h : Kept groups s) : s.Follows groups := by
  induction h with
  | empty => exact .empty
  | sync h groups ih => exact ih.sync groups
  | recordRun h name time ih => exact ih.recordRun name time
  | reordered h hperm ih => exact ih.of_perm hperm

theorem inOrder_of_perm (h : s.Follows groups) (hperm : es.Perm s.entries) :
    (⟨es⟩ : Schedule).inOrder groups = s.inOrder groups := by
  simp only [inOrder, get?_of_perm h.distinct hperm]

/-- However the entries are listed, the same groups are due in the same order. -/
theorem due_of_perm (h : s.Follows groups) (hperm : es.Perm s.entries) (now : Instant) :
    (⟨es⟩ : Schedule).due now = s.due now := by
  rw [due_eq_inOrder (h.of_perm hperm), inOrder_of_perm h hperm, due_eq_inOrder h]

theorem nodup_positions (h : s.Follows groups) : (s.entries.map (·.position)).Nodup := by
  have hincreasing := inOrder_increasing s groups
  rw [((perm_inOrder h).map _).nodup_iff, List.Nodup, List.pairwise_map]
  exact hincreasing.imp Nat.ne_of_lt

/-! ### The same groups again -/

theorem names_placeAll (i : Nat) (h : ∀ g ∈ groups, g.name ∈ es.map (·.name)) :
    (placeAll groups i es).map (·.name) = es.map (·.name) := by
  induction groups generalizing i es with
  | nil => rfl
  | cons g gs ih =>
      have hplaced : (place g i es).map (·.name) = es.map (·.name) := by
        rw [names_place, if_pos (h g List.mem_cons_self)]
      rw [placeAll_cons, ih, hplaced]
      intro g' hg'
      rw [hplaced]
      exact h g' (List.mem_cons_of_mem _ hg')

/-- Entries with different names are told by their names and the look-up. -/
theorem entries_eq (hd : (s.entries.map (·.name)).Nodup) :
    s.entries = (s.entries.map (·.name)).filterMap s.get? := by
  rw [List.filterMap_map]
  calc s.entries = s.entries.filterMap some := List.filterMap_some.symm
    _ = s.entries.filterMap (s.get? ∘ (·.name)) :=
      List.filterMap_congr fun e he => (get?_of_mem hd he).symm

theorem kept_eq_self (h : s.Follows groups) :
    (s.entries.filter fun e => groups.any (·.name == e.name)) = s.entries := by
  rw [List.filter_eq_self]
  intro e he
  obtain ⟨g, hg, hname, -⟩ := h.group_at he
  rw [List.any_eq_true]
  exact ⟨g, List.mem_of_getElem? hg, by rw [hname, beq_self_eq_true]⟩

theorem names_sync_self (h : s.Follows groups) :
    (s.sync groups).entries.map (·.name) = s.entries.map (·.name) := by
  rw [sync_entries, kept_eq_self h]
  refine names_placeAll 0 fun g hg => ?_
  obtain ⟨e, hget⟩ := Option.isSome_iff_exists.1 (h.get?_isSome.2 (List.mem_map_of_mem hg))
  rw [← name_of_get? hget]
  exact List.mem_map_of_mem (mem_of_get? hget)

theorem get?_sync_self (h : s.Follows groups) (name : String) :
    (s.sync groups).get? name = s.get? name := by
  have hknown := h.known name
  rw [get?_sync, lastRun?]
  cases hget : s.get? name with
  | none =>
      rw [hget, Option.map_none] at hknown
      rw [Option.map_eq_none_iff.1 hknown.symm, Option.map_none]
  | some e =>
      rw [hget, Option.map_some] at hknown
      obtain ⟨⟨i, g⟩, hlast, heq⟩ := Option.map_eq_some_iff.1 hknown.symm
      have hposition : i = e.position := congrArg Prod.fst heq
      have hperiod : periodOf g = e.period := congrArg Prod.snd heq
      simp only [hlast, Option.map_some, Option.bind_some, hposition, hperiod]
      rw [← name_of_get? hget]

/-- To be brought in line with the same groups again changes nothing. -/
theorem sync_self (h : s.Follows groups) : s.sync groups = s := by
  have hentries : (s.sync groups).entries = s.entries := by
    calc (s.sync groups).entries
        = ((s.sync groups).entries.map (·.name)).filterMap (s.sync groups).get? :=
          entries_eq (nodup_sync h.distinct groups)
      _ = (s.entries.map (·.name)).filterMap s.get? := by
          rw [names_sync_self h, funext (get?_sync_self h)]
      _ = s.entries := (entries_eq h.distinct).symm
  exact congrArg Schedule.mk hentries

/-! ### Due groups -/

/-- The groups that are due are the tracked ones that should run, each once, by their positions. -/
theorem due_entries (h : s.Follows groups) (now : Instant) :
    ∃ es : List ScheduleEntry, s.due now = es.map (·.name) ∧
      es.Pairwise (fun a b => a.position < b.position) ∧
      ∀ e, e ∈ es ↔ e ∈ s.entries ∧ s.shouldRun e.name now = true := by
  refine ⟨(s.inOrder groups).filter (·.isDue now), due_eq_inOrder h now, ?_, ?_⟩
  · exact (inOrder_increasing s groups).sublist List.filter_sublist
  · intro e
    rw [List.mem_filter, mem_inOrder h]
    refine and_congr_right fun he => ?_
    rw [shouldRun_of_get? (get?_of_mem h.distinct he)]

/-- Whatever a schedule went through, it tracks the names of the groups it was last brought in line
with, and each entry is known by its own name and holds the index and the interval of the last group
of that name. So the order in which the entries are listed makes no difference to what is due. -/
theorem due_in_document_order (h : Kept groups s) :
    (∀ name, (s.get? name).isSome ↔ name ∈ groups.map (·.name)) ∧
    (∀ e, e ∈ s.entries ↔ s.get? e.name = some e) ∧
    (∀ name e, s.get? name = some e → e.name = name ∧
      ∃ g, LastAt groups name e.position g ∧ e.period = g.interval.bind Duration.parse?) ∧
    (s.entries.map (·.position)).Nodup ∧
    (∀ now, ∃ es : List ScheduleEntry,
      (∀ order, order.Perm s.entries → Schedule.due ⟨order⟩ now = es.map (·.name)) ∧
      es.Pairwise (fun a b => a.position < b.position) ∧
      ∀ e, e ∈ es ↔ e ∈ s.entries ∧ s.shouldRun e.name now = true) ∧
    ((groups.map (·.name)).Nodup → ∀ now order, order.Perm s.entries →
      Schedule.due ⟨order⟩ now =
        (groups.filter fun g => s.shouldRun g.name now).map (·.name)) ∧
    s.sync groups = s := by
  have hfollows := h.follows
  refine ⟨fun name => hfollows.get?_isSome, ?_, ?_, nodup_positions hfollows, ?_, ?_,
    sync_self hfollows⟩
  · exact fun e => ⟨get?_of_mem hfollows.distinct, mem_of_get?⟩
  · intro name e hget
    have hname := name_of_get? hget
    obtain ⟨g, hlast, hperiod⟩ := hfollows.lastAt (mem_of_get? hget)
    rw [hname] at hlast
    exact ⟨hname, g, hlast, by rw [hperiod, periodOf_eq]⟩
  · intro now
    obtain ⟨es, hdue, hincreasing, hmem⟩ := due_entries hfollows now
    refine ⟨es, fun order hperm => ?_, hincreasing, hmem⟩
    rw [due_of_perm hfollows hperm, hdue]
  · intro hd now order hperm
    rw [due_of_perm hfollows hperm, due_eq_filter hfollows hd]

theorem due_in_document_order_of_repeated_name :
    let a : Group := ⟨"a", .empty, some "10s", []⟩
    let b : Group := ⟨"b", .empty, none, []⟩
    let a' : Group := ⟨"a", .empty, some "often", []⟩
    let s := ((Schedule.empty.sync [b]).recordRun "b" ⟨0⟩).sync [a, b, a']
    Kept [a, b, a'] s ∧ s.due ⟨5⟩ = ["b", "a"] ∧
      Schedule.due ⟨s.entries.reverse⟩ ⟨5⟩ = s.due ⟨5⟩ ∧ s.sync [a, b, a'] = s := by
  intro a b a' s
  have hs : Kept [a, b, a'] s := ((Kept.empty.sync [b]).recordRun "b" ⟨0⟩).sync [a, b, a']
  obtain ⟨-, -, -, -, hdue, -, hsync⟩ := due_in_document_order hs
  obtain ⟨es, horder, -⟩ := hdue ⟨5⟩
  refine ⟨hs, ?_, ?_, hsync⟩
  · rw [due_eq_inOrder hs.follows]
    decide
  · rw [horder _ (List.reverse_perm _), ← horder _ (.refl _)]

end AlertPolicy.Schedule
