import AlertPolicy.Schedule

/-!
Schedules looked up by name. Each operation of a schedule is told by what it does to the look-up,
and none of them gives a name a second entry. A schedule follows a list of groups if it knows each
name by its last group there.
-/

namespace AlertPolicy.Schedule

open Policy Time

/-- The last group of the name, with its index, when the first of the groups has index `i`. -/
def lastNamed (name : String) (i : Nat) : List Group → Option (Nat × Group)
  | [] => none
  | g :: gs => (lastNamed name (i + 1) gs).or (if g.name = name then some (i, g) else none)

theorem lastNamed_eq_none {name : String} {i : Nat} {groups : List Group} :
    lastNamed name i groups = none ↔ name ∉ groups.map (·.name) := by
  induction groups generalizing i with
  | nil => simp [lastNamed]
  | cons g gs ih =>
      rw [lastNamed, Option.or_eq_none_iff, ih, List.map_cons, List.mem_cons]
      by_cases h : g.name = name
      · simp [h]
      · have hne : ¬ name = g.name := fun heq => h heq.symm
        simp [h, hne]

theorem mem_of_lastNamed {name : String} {i j : Nat} {groups : List Group} {g : Group}
    (h : lastNamed name i groups = some (j, g)) : (g, j) ∈ groups.zipIdx i ∧ g.name = name := by
  induction groups generalizing i with
  | nil => contradiction
  | cons x xs ih =>
      rw [lastNamed, Option.or_eq_some_iff] at h
      rw [List.zipIdx_cons, List.mem_cons]
      cases h with
      | inl hlater => exact (ih hlater).imp_left .inr
      | inr hhere =>
          split at hhere
          · next hx =>
            cases hhere.2
            exact ⟨.inl rfl, hx⟩
          · cases hhere.2

theorem name_mem_of_lastNamed {name : String} {i : Nat} {groups : List Group} {found : Nat × Group}
    (h : lastNamed name i groups = some found) : name ∈ groups.map (·.name) := by
  obtain ⟨hmem, hname⟩ := mem_of_lastNamed h
  rw [← hname]
  exact List.mem_map_of_mem (List.fst_mem_of_mem_zipIdx hmem)

/-- Where all names differ, each group is the last of its name. -/
theorem lastNamed_of_mem {i j : Nat} {groups : List Group} {g : Group}
    (hd : (groups.map (·.name)).Nodup) (h : (g, j) ∈ groups.zipIdx i) :
    lastNamed g.name i groups = some (j, g) := by
  induction groups generalizing i with
  | nil => contradiction
  | cons x xs ih =>
      rw [List.map_cons, List.nodup_cons] at hd
      rw [List.zipIdx_cons, List.mem_cons] at h
      rw [lastNamed]
      cases h with
      | inl heq =>
          cases heq
          rw [lastNamed_eq_none.2 hd.1, if_pos rfl, Option.none_or]
      | inr hmem => rw [ih hd.2 hmem, Option.some_or]

/-- The place and the period of the entry are those of the last group of its name. -/
structure Follows (s : Schedule) (groups : List Group) : Prop where
  distinct : (s.entries.map (·.name)).Nodup
  known : ∀ name, (s.get? name).map (fun e => (e.position, e.period)) =
    (lastNamed name 0 groups).map fun (i, g) => (i, periodOf g)

/-- The time at which the group of the name ran last, as far as the schedule knows. -/
def lastRun? (s : Schedule) (name : String) : Option Instant := (s.get? name).bind (·.lastRun)

/-! ### Entries and names -/

theorem name_of_get? {s : Schedule} {name : String} {e : ScheduleEntry}
    (h : s.get? name = some e) : e.name = name := by
  have hfound := List.find?_some h
  exact eq_of_beq hfound

theorem mem_of_get? {s : Schedule} {name : String} {e : ScheduleEntry}
    (h : s.get? name = some e) : e ∈ s.entries :=
  List.mem_of_find?_eq_some h

/-- Among things with different keys, each is found by its own. -/
theorem find?_key_of_mem {α : Type} {key : α → String} {xs : List α} {x : α}
    (hd : (xs.map key).Nodup) (h : x ∈ xs) : xs.find? (key · == key x) = some x := by
  induction xs with
  | nil => contradiction
  | cons y ys ih =>
      rw [List.map_cons, List.nodup_cons] at hd
      cases List.mem_cons.1 h with
      | inl hy =>
          subst hy
          exact List.find?_cons_of_pos (beq_self_eq_true _)
      | inr hys =>
          have hne : key y ≠ key x := by
            intro heq
            apply hd.1
            rw [heq]
            exact List.mem_map_of_mem hys
          rw [List.find?_cons_of_neg (by simpa using hne)]
          exact ih hd.2 hys

theorem get?_of_mem {s : Schedule} {e : ScheduleEntry} (hd : (s.entries.map (·.name)).Nodup)
    (h : e ∈ s.entries) : s.get? e.name = some e :=
  find?_key_of_mem hd h

/-! ### Bringing in line -/

theorem find?_place (g : Group) (i : Nat) (es : List ScheduleEntry) (name : String) :
    (place g i es).find? (·.name == name) =
      if g.name = name then
        some ⟨g.name, i, periodOf g, (es.find? (·.name == name)).bind (·.lastRun)⟩
      else es.find? (·.name == name) := by
  induction es with
  | nil =>
      by_cases h : g.name = name
      · simp [place, h]
      · simp [place, h]
  | cons e es ih =>
      by_cases he : e.name = g.name
      · by_cases h : g.name = name
        · simp [place, he, h]
        · simp [place, he, h]
      · by_cases h : g.name = name
        · subst h
          simp [place, he, ih]
        · simp only [place, he, if_false, List.find?_cons, ih, h]

theorem names_place (g : Group) (i : Nat) (es : List ScheduleEntry) :
    (place g i es).map (·.name) =
      if g.name ∈ es.map (·.name) then es.map (·.name) else es.map (·.name) ++ [g.name] := by
  induction es with
  | nil => rfl
  | cons e es ih =>
      by_cases he : e.name = g.name
      · simp [place, he]
      · have hne : ¬ g.name = e.name := fun h => he h.symm
        by_cases hmem : g.name ∈ es.map (·.name)
        · simp only [place, he, if_false, List.map_cons, ih, if_pos hmem, List.mem_cons, hne,
            false_or]
        · simp only [place, he, if_false, List.map_cons, ih, if_neg hmem, List.mem_cons, hne,
            false_or, List.cons_append]

theorem nodup_place {g : Group} {i : Nat} {es : List ScheduleEntry}
    (h : (es.map (·.name)).Nodup) : ((place g i es).map (·.name)).Nodup := by
  rw [names_place]
  split
  · exact h
  · next hmem =>
    refine List.nodup_append.2 ⟨h, List.pairwise_singleton _ _, ?_⟩
    intro a ha b hb hab
    rw [List.mem_singleton.1 hb] at hab
    exact hmem (hab ▸ ha)

/-- The groups from index `i` on, put in their places one after the other. -/
def placeAll (groups : List Group) (i : Nat) (es : List ScheduleEntry) : List ScheduleEntry :=
  (groups.zipIdx i).foldl (fun es (g, i) => place g i es) es

theorem placeAll_cons (g : Group) (gs : List Group) (i : Nat) (es : List ScheduleEntry) :
    placeAll (g :: gs) i es = placeAll gs (i + 1) (place g i es) := rfl

theorem nodup_placeAll (groups : List Group) (i : Nat) {es : List ScheduleEntry}
    (h : (es.map (·.name)).Nodup) : ((placeAll groups i es).map (·.name)).Nodup := by
  induction groups generalizing i es with
  | nil => exact h
  | cons g gs ih =>
      rw [placeAll_cons]
      exact ih (i + 1) (nodup_place h)

theorem find?_placeAll (groups : List Group) (i : Nat) (es : List ScheduleEntry) (name : String) :
    (placeAll groups i es).find? (·.name == name) =
      match lastNamed name i groups with
      | some (j, g) => some ⟨name, j, periodOf g, (es.find? (·.name == name)).bind (·.lastRun)⟩
      | none => es.find? (·.name == name) := by
  induction groups generalizing i es with
  | nil => rfl
  | cons g gs ih =>
      rw [placeAll_cons, ih, find?_place, lastNamed]
      cases lastNamed name (i + 1) gs with
      | some found =>
          by_cases h : g.name = name
          · simp [h]
          · simp [h]
      | none =>
          by_cases h : g.name = name
          · simp [h]
          · simp [h]

theorem find?_kept (s : Schedule) (groups : List Group) (name : String) :
    (s.entries.filter fun e => groups.any (·.name == e.name)).find? (·.name == name) =
      if name ∈ groups.map (·.name) then s.get? name else none := by
  rw [List.find?_filter, get?]
  split
  · next hmem =>
    congr 1
    funext e
    by_cases he : e.name = name
    · obtain ⟨g, hg, hname⟩ := List.mem_map.1 hmem
      have hany : groups.any (·.name == e.name) = true := by
        rw [List.any_eq_true]
        exact ⟨g, hg, by rw [hname, he, beq_self_eq_true]⟩
      rw [hany]
      simp only [true_and, Bool.decide_eq_true]
    · rw [beq_false_of_ne he]
      simp only [Bool.false_eq_true, and_false, decide_false]
  · next hmem =>
    rw [List.find?_eq_none]
    intro e he hfound
    rw [decide_eq_true_eq, List.any_eq_true] at hfound
    obtain ⟨⟨g, hg, hname⟩, hsame⟩ := hfound
    apply hmem
    rw [← eq_of_beq hsame, ← eq_of_beq hname]
    exact List.mem_map_of_mem hg

theorem sync_entries (s : Schedule) (groups : List Group) :
    (s.sync groups).entries =
      placeAll groups 0 (s.entries.filter fun e => groups.any (·.name == e.name)) := rfl

/-- What is known of a name after the schedule was brought in line: its last group, and the last run
that was known before. -/
theorem get?_sync (s : Schedule) (groups : List Group) (name : String) :
    (s.sync groups).get? name =
      (lastNamed name 0 groups).map fun (i, g) => ⟨name, i, periodOf g, s.lastRun? name⟩ := by
  rw [get?, sync_entries, find?_placeAll, find?_kept]
  cases h : lastNamed name 0 groups with
  | none => simp [lastNamed_eq_none.1 h]
  | some found =>
      rw [if_pos (name_mem_of_lastNamed h)]
      rfl

theorem nodup_sync {s : Schedule} (h : (s.entries.map (·.name)).Nodup) (groups : List Group) :
    ((s.sync groups).entries.map (·.name)).Nodup := by
  rw [sync_entries]
  exact nodup_placeAll groups 0 (h.sublist (List.filter_sublist.map _))

/-! ### Runs -/

theorem get?_recordRun (s : Schedule) (ran : String) (time : Instant) (name : String) :
    (s.recordRun ran time).get? name =
      (s.get? name).map fun e => if name = ran then { e with lastRun := some time } else e := by
  have hname (e : ScheduleEntry) :
      (if e.name = ran then { e with lastRun := some time } else e).name = e.name := by
    split <;> rfl
  rw [get?, recordRun, List.find?_map, get?]
  have hsame : ((fun e : ScheduleEntry => e.name == name) ∘
      fun e => if e.name = ran then { e with lastRun := some time } else e) =
        fun e => e.name == name := by
    funext e
    rw [Function.comp, hname]
  rw [hsame]
  cases h : s.entries.find? (·.name == name) with
  | none => rfl
  | some e =>
      have he : e.name = name := name_of_get? h
      simp only [Option.map_some, he]

theorem names_recordRun (s : Schedule) (ran : String) (time : Instant) :
    (s.recordRun ran time).entries.map (·.name) = s.entries.map (·.name) := by
  rw [recordRun, List.map_map]
  congr 1
  funext e
  rw [Function.comp]
  split <;> rfl

theorem lastRun?_sync (s : Schedule) (groups : List Group) (name : String) :
    (s.sync groups).lastRun? name =
      if name ∈ groups.map (·.name) then s.lastRun? name else none := by
  rw [lastRun?, get?_sync]
  cases h : lastNamed name 0 groups with
  | none => rw [if_neg (lastNamed_eq_none.1 h), Option.map_none, Option.bind_none]
  | some found =>
      rw [if_pos (name_mem_of_lastNamed h), Option.map_some, Option.bind_some]

theorem lastRun?_recordRun (s : Schedule) (ran : String) (time : Instant) (name : String) :
    (s.recordRun ran time).lastRun? name =
      if name = ran ∧ (s.get? name).isSome then some time else s.lastRun? name := by
  rw [lastRun?, lastRun?, get?_recordRun]
  cases s.get? name with
  | none => simp
  | some e =>
      by_cases h : name = ran
      · simp [h]
      · simp [h]

/-! ### Following a list of groups -/

theorem Follows.empty : Follows Schedule.empty [] := ⟨.nil, fun _ => rfl⟩

theorem Follows.sync {s : Schedule} {old : List Group} (h : s.Follows old) (groups : List Group) :
    (s.sync groups).Follows groups := by
  refine ⟨nodup_sync h.distinct groups, fun name => ?_⟩
  rw [get?_sync, Option.map_map]
  rfl

theorem Follows.recordRun {s : Schedule} {groups : List Group} (h : s.Follows groups)
    (ran : String) (time : Instant) : (s.recordRun ran time).Follows groups := by
  refine ⟨?_, fun name => ?_⟩
  · rw [names_recordRun]
    exact h.distinct
  · rw [get?_recordRun, ← h.known name, Option.map_map]
    congr 1
    funext e
    rw [Function.comp]
    split <;> rfl

theorem Follows.get?_isSome {s : Schedule} {groups : List Group} (h : s.Follows groups)
    {name : String} : (s.get? name).isSome ↔ name ∈ groups.map (·.name) := by
  have hknown := congrArg Option.isSome (h.known name)
  rw [Option.isSome_map, Option.isSome_map] at hknown
  rw [hknown]
  cases hlast : lastNamed name 0 groups with
  | none => simp [lastNamed_eq_none.1 hlast]
  | some found => simp only [Option.isSome_some, name_mem_of_lastNamed hlast]

/-- What a schedule looks at in a group. -/
def key (g : Group) : String × Option Duration := (g.name, periodOf g)

theorem lastNamed_congr {groups groups' : List Group} (h : groups'.map key = groups.map key)
    (name : String) (i : Nat) :
    (lastNamed name i groups').map (fun (j, g) => (j, periodOf g)) =
      (lastNamed name i groups).map fun (j, g) => (j, periodOf g) := by
  induction groups generalizing groups' i with
  | nil =>
      rw [List.map_nil, List.map_eq_nil_iff] at h
      rw [h]
  | cons g gs ih =>
      cases groups' with
      | nil => contradiction
      | cons g' gs' =>
          rw [List.map_cons, List.map_cons, List.cons.injEq] at h
          have hname : g'.name = g.name := congrArg Prod.fst h.1
          have hperiod : periodOf g' = periodOf g := congrArg Prod.snd h.1
          rw [lastNamed, lastNamed, Option.map_or, Option.map_or, ih h.2, hname]
          congr 1
          split
          · simp only [Option.map_some, hperiod]
          · rfl

theorem Follows.congr {s : Schedule} {groups groups' : List Group} (h : s.Follows groups)
    (hkeys : groups'.map key = groups.map key) : s.Follows groups' := by
  refine ⟨h.distinct, fun name => ?_⟩
  rw [h.known name, lastNamed_congr hkeys]

theorem names_of_keys {groups groups' : List Group} (h : groups'.map key = groups.map key) :
    groups'.map (·.name) = groups.map (·.name) := by
  have hnames := congrArg (List.map Prod.fst) h
  rw [List.map_map, List.map_map] at hnames
  exact hnames

/-! ### Waiting -/

/-- No time passes while the clock is set back, and no period is so short as to be over then. -/
theorem isDue_iff (e : ScheduleEntry) (now : Instant) :
    e.isDue now = true ↔ e.period = none ∨ e.lastRun = none ∨
      ∃ p last, e.period = some p ∧ e.lastRun = some last ∧
        (p.milliseconds * 1000000 : Int) ≤ now.nanoseconds - last.nanoseconds := by
  obtain ⟨name, position, period, lastRun⟩ := e
  cases period with
  | none => simp [ScheduleEntry.isDue, ScheduleEntry.remaining]
  | some p =>
      cases lastRun with
      | none => simp [ScheduleEntry.isDue, ScheduleEntry.remaining]
      | some last =>
          -- A clock set back gives zero, which is less than any period.
          have hpositive := p.positive
          simp only [ScheduleEntry.isDue, ScheduleEntry.remaining, Instant.elapsed, beq_iff_eq,
            reduceCtorEq, Option.some.injEq, exists_and_left, false_or, exists_eq_left']
          omega

theorem shouldRun_of_get? {s : Schedule} {name : String} {e : ScheduleEntry}
    (h : s.get? name = some e) (now : Instant) : s.shouldRun name now = e.isDue now := by
  rw [shouldRun, h, Option.any_some]

/-- A name is due by the period of its last group and by its last run. -/
theorem shouldRun_iff_of_lastNamed {s : Schedule} {groups : List Group} {g : Group} {i : Nat}
    (h : s.Follows groups) (hlast : lastNamed g.name 0 groups = some (i, g)) (now : Instant) :
    s.shouldRun g.name now = true ↔ periodOf g = none ∨ s.lastRun? g.name = none ∨
      ∃ p last, periodOf g = some p ∧ s.lastRun? g.name = some last ∧
        (p.milliseconds * 1000000 : Int) ≤ now.nanoseconds - last.nanoseconds := by
  have hknown := h.known g.name
  rw [hlast] at hknown
  obtain ⟨e, hget, heq⟩ := Option.map_eq_some_iff.1 hknown
  have hperiod : e.period = periodOf g := congrArg Prod.snd heq
  rw [shouldRun_of_get? hget, lastRun?, hget, Option.bind_some, ← hperiod]
  exact isDue_iff e now

/-- A group of the document is due by its own period and its last run. -/
theorem shouldRun_iff {s : Schedule} {groups : List Group} {g : Group} (h : s.Follows groups)
    (hd : (groups.map (·.name)).Nodup) (hg : g ∈ groups) (now : Instant) :
    s.shouldRun g.name now = true ↔ periodOf g = none ∨ s.lastRun? g.name = none ∨
      ∃ p last, periodOf g = some p ∧ s.lastRun? g.name = some last ∧
        (p.milliseconds * 1000000 : Int) ≤ now.nanoseconds - last.nanoseconds := by
  obtain ⟨i, hi⟩ := List.mem_iff_getElem?.1 hg
  exact shouldRun_iff_of_lastNamed h (lastNamed_of_mem hd (List.mem_zipIdx_iff_getElem?.2 hi)) now

/-- Where no two entries share a name, each is due by itself. -/
theorem filter_shouldRun {s : Schedule} (hd : (s.entries.map (·.name)).Nodup) (now : Instant) :
    (s.entries.filter fun e => s.shouldRun e.name now) = s.entries.filter (·.isDue now) :=
  List.filter_congr fun _ he => shouldRun_of_get? (get?_of_mem hd he) now

theorem mem_due {s : Schedule} {name : String} {now : Instant} :
    name ∈ s.due now ↔ s.shouldRun name now = true := by
  rw [due, List.mem_map]
  constructor
  · intro ⟨e, he, hname⟩
    rw [← hname]
    exact (List.mem_filter.1 (List.mem_mergeSort.1 he)).2
  · intro hdue
    obtain ⟨e, hget, -⟩ := (Option.any_eq_true _ _).1 hdue
    have hname := name_of_get? hget
    rw [← hname] at hdue
    exact ⟨e, List.mem_mergeSort.2 (List.mem_filter.2 ⟨mem_of_get? hget, hdue⟩), hname⟩

end AlertPolicy.Schedule
