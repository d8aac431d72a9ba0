import AlertPolicy.Engine.Tick
import AlertPolicy.Proofs.Engine.Outcome
import AlertPolicy.Proofs.Schedule.Order

/-!
A tick as a whole. What is put down step by step is the outcomes of the rules, one after the other,
and each count is the number of outcomes of its kind. The runs are recorded in the schedule group by
group and change nothing that the rest of the tick looks at.
-/

namespace AlertPolicy.Engine

open Policy Store Time

/-- What is done for a rule, in order. -/
def Outcome.effects (o : Outcome) : List Effect :=
  o.fetched.toList.map .fetch ++ (o.report?.toList.map .report ++ o.events.map .say)

/-- What comes of the rules of a group from `index` on. -/
def outcomesFrom (source : Source) (time : Instant) (g : Group) (index : Nat) (rs : List Rule) :
    List Outcome :=
  (rs.zipIdx index).map fun (r, i) => evaluateRule source time g i r

def outcomes (source : Source) (time : Instant) (g : Group) : List Outcome :=
  outcomesFrom source time g 0 g.rules

theorem fetch?_effects (o : Outcome) : o.effects.filterMap Effect.fetch? = o.fetched.toList := by
  have hreports : (o.report?.toList.map Effect.report).filterMap Effect.fetch? = [] := by
    rw [List.filterMap_map]
    exact List.filterMap_eq_nil_iff.2 fun _ _ => rfl
  have hevents : (o.events.map Effect.say).filterMap Effect.fetch? = [] := by
    rw [List.filterMap_map]
    exact List.filterMap_eq_nil_iff.2 fun _ _ => rfl
  rw [Outcome.effects, List.filterMap_append, List.filterMap_append, hreports, hevents,
    List.append_nil, List.append_nil, List.filterMap_map]
  exact List.filterMap_some

theorem report?_effects (o : Outcome) : o.effects.filterMap Effect.report? = o.report?.toList := by
  have hfetches : (o.fetched.toList.map Effect.fetch).filterMap Effect.report? = [] := by
    rw [List.filterMap_map]
    exact List.filterMap_eq_nil_iff.2 fun _ _ => rfl
  have hevents : (o.events.map Effect.say).filterMap Effect.report? = [] := by
    rw [List.filterMap_map]
    exact List.filterMap_eq_nil_iff.2 fun _ _ => rfl
  rw [Outcome.effects, List.filterMap_append, List.filterMap_append, hfetches, hevents,
    List.append_nil, List.nil_append, List.filterMap_map]
  exact List.filterMap_some

theorem report?_flatMap_effects (os : List Outcome) :
    (os.flatMap Outcome.effects).filterMap Effect.report? = os.filterMap Outcome.report? := by
  induction os with
  | nil => rfl
  | cons o os ih =>
      rw [List.flatMap_cons, List.filterMap_append, report?_effects, ih, List.filterMap_cons]
      cases o.report? with
      | none => rfl
      | some r => rfl

namespace Tick

/-- The tick after more groups and outcomes. -/
def extend (t : Tick) (groups : List Group) (os : List Outcome) : Tick where
  summary := { t.summary with
    groups := t.summary.groups + groups.length
    evaluated := t.summary.evaluated + (os.filterMap Outcome.report?).length
    fired := t.summary.fired + (os.filterMap Outcome.report?).countP Report.fired
    failed := t.summary.failed + os.countP (·.report?.isNone) }
  groups := t.groups ++ groups
  trace := t.trace ++ os.flatMap Outcome.effects

variable (t : Tick) (groups : List Group) (os : List Outcome)

theorem time_extend : (t.extend groups os).time = t.time := rfl

/-- The answer to a rule is put down in the counts and the trace only. -/
theorem settle_keeps (o : Outcome) :
    (t.settle o).time = t.time ∧ (t.settle o).groups = t.groups := by
  rw [settle]
  cases o.result with
  | ok r =>
      refine ⟨?_, rfl⟩
      simp only [report]
      split <;> rfl
  | error f => exact ⟨rfl, rfl⟩

theorem extend_nil : t.extend [] [] = t := by
  simp [extend]

theorem extend_extend (groups' : List Group) (os' : List Outcome) :
    (t.extend groups os).extend groups' os' = t.extend (groups ++ groups') (os ++ os') := by
  simp [extend, Nat.add_assoc]

/-- One step of a tick puts down one outcome. -/
theorem add_eq (o : Outcome) : t.add o = t.extend [] [o] := by
  obtain ⟨group, index, rule, fetched, result⟩ := o
  cases result with
  | ok r =>
      have hreport : (⟨group, index, rule, fetched, .ok r⟩ : Outcome).report? = some r := rfl
      cases hfired : r.fired with
      | false =>
          simp [add, settle, extend, fetch, report, Outcome.effects, Outcome.events, hreport,
            hfired]
      | true =>
          simp [add, settle, extend, fetch, report, Outcome.effects, Outcome.events, hreport,
            hfired]
  | error f =>
      have hreport : (⟨group, index, rule, fetched, .error f⟩ : Outcome).report? = none := rfl
      simp [add, settle, extend, fetch, fail, Outcome.effects, hreport]

theorem close_extend (g : Group) : (t.extend groups os).close g = t.extend (groups ++ [g]) os := by
  simp [close, extend, Nat.add_assoc]

theorem fetches_extend :
    (t.extend groups os).fetches = t.fetches ++ os.flatMap (·.fetched.toList) := by
  rw [fetches, extend, List.filterMap_append, List.filterMap_flatMap]
  simp only [fetch?_effects]
  rfl

theorem reports_extend :
    (t.extend groups os).reports = t.reports ++ os.filterMap Outcome.report? := by
  rw [reports, extend, List.filterMap_append, report?_flatMap_effects]
  rfl

end Tick

/-- A rule gives a report or is counted as failed. -/
theorem length_reports_add_failed (os : List Outcome) :
    (os.filterMap Outcome.report?).length + os.countP (·.report?.isNone) = os.length := by
  induction os with
  | nil => rfl
  | cons o os ih =>
      cases h : o.report? with
      | none =>
          rw [List.filterMap_cons_none h, List.countP_cons_of_pos (by simp [h]), List.length_cons]
          omega
      | some r =>
          rw [List.filterMap_cons_some h, List.countP_cons_of_neg (by simp [h]), List.length_cons,
            List.length_cons]
          omega

theorem length_outcomes (source : Source) (time : Instant) (g : Group) :
    (outcomes source time g).length = g.rules.length := by
  rw [outcomes, outcomesFrom, List.length_map, List.length_zipIdx]

/-! ### Rules, groups and ticks -/

theorem runRules_eq (source : Source) (g : Group) (index : Nat) (t : Tick) (rs : List Rule) :
    runRules source g index t rs = t.extend [] (outcomesFrom source t.time g index rs) := by
  induction rs generalizing index t with
  | nil => exact (t.extend_nil).symm
  | cons r rs ih =>
      rw [runRules, ih, Tick.add_eq, Tick.extend_extend, Tick.time_extend]
      rfl

theorem runGroup_eq (source : Source) (t : Tick) (g : Group) :
    runGroup source t g = t.extend [g] (outcomes source t.time g) := by
  rw [runGroup, runRules_eq, Tick.close_extend, List.nil_append]
  rfl

theorem name_of_group? {d : Document} {name : String} {g : Group} (h : d.group? name = some g) :
    g.name = name := by
  have hfound := List.find?_some h
  exact eq_of_beq hfound

theorem sublist_names_group? (d : Document) (names : List String) :
    ((names.filterMap d.group?).map (·.name)).Sublist names := by
  induction names with
  | nil => exact .slnil
  | cons name names ih =>
      cases h : d.group? name with
      | none =>
          rw [List.filterMap_cons_none h]
          exact .cons name ih
      | some g =>
          rw [List.filterMap_cons_some h, List.map_cons, name_of_group? h]
          exact .cons_cons name ih

/-- The schedule after the groups have run at the time. -/
def recordRuns (s : Schedule) (time : Instant) (groups : List Group) : Schedule :=
  groups.foldl (fun s g => s.recordRun g.name time) s

/-- The names are those that were due at the start, so the runs recorded meanwhile do not matter. -/
theorem runGroups_eq (d : Document) (source : Source) (t : Tick) (s : Schedule)
    (names : List String) :
    runGroups d source t s names =
      (t.extend (names.filterMap d.group?)
        ((names.filterMap d.group?).flatMap (outcomes source t.time)),
        recordRuns s t.time (names.filterMap d.group?)) := by
  induction names generalizing t s with
  | nil =>
      rw [runGroups, List.filterMap_nil, List.flatMap_nil, Tick.extend_nil]
      rfl
  | cons name names ih =>
      cases h : d.group? name with
      | none =>
          rw [List.filterMap_cons_none h]
          simp only [runGroups, h]
          exact ih t s
      | some g =>
          rw [List.filterMap_cons_some h, List.flatMap_cons]
          simp only [runGroups, h, runGroup_eq]
          rw [ih, Tick.extend_extend, Tick.time_extend, recordRuns, recordRuns, List.foldl_cons,
            name_of_group? h]
          rfl

theorem runTick_eq (d : Document) (s : Schedule) (source : Source) (time : Instant) :
    runTick d s source time =
      ((Tick.start time).extend ((s.due time).filterMap d.group?)
        (((s.due time).filterMap d.group?).flatMap (outcomes source time)),
        recordRuns s time ((s.due time).filterMap d.group?)) :=
  runGroups_eq d source (.start time) s (s.due time)

/-! ### Documents whose names differ -/

theorem group?_of_mem {d : Document} {g : Group} (hd : (d.groups.map (·.name)).Nodup)
    (h : g ∈ d.groups) : d.group? g.name = some g :=
  Schedule.find?_key_of_mem hd h

theorem filterMap_group? {d : Document} {gs : List Group} (hd : (d.groups.map (·.name)).Nodup)
    (h : ∀ g ∈ gs, g ∈ d.groups) : (gs.map (·.name)).filterMap d.group? = gs := by
  induction gs with
  | nil => rfl
  | cons g gs ih =>
      have hrest := ih fun x hx => h x (List.mem_cons_of_mem _ hx)
      have hfound := group?_of_mem hd (h g List.mem_cons_self)
      rw [List.map_cons, List.filterMap_cons_some hfound, hrest]

/-- The groups that run are those that are due, in the order of the document. -/
theorem dueGroups_eq {d : Document} {s : Schedule} (h : s.Follows d.groups)
    (hd : (d.groups.map (·.name)).Nodup) (time : Instant) :
    (s.due time).filterMap d.group? = d.groups.filter fun g => s.shouldRun g.name time := by
  rw [Schedule.due_eq_filter h hd]
  exact filterMap_group? hd fun g hg => (List.mem_filter.1 hg).1

theorem runTick_of_nodup {d : Document} {s : Schedule} (h : s.Follows d.groups)
    (hd : (d.groups.map (·.name)).Nodup) (source : Source) (time : Instant) :
    runTick d s source time =
      ((Tick.start time).extend (d.groups.filter fun g => s.shouldRun g.name time)
        ((d.groups.filter fun g => s.shouldRun g.name time).flatMap (outcomes source time)),
        recordRuns s time (d.groups.filter fun g => s.shouldRun g.name time)) := by
  rw [runTick_eq, dueGroups_eq h hd]

/-- The schedule after a tick follows the groups as before. -/
theorem follows_recordRuns {s : Schedule} {groups : List Group} (h : s.Follows groups)
    (time : Instant) (ran : List Group) : (recordRuns s time ran).Follows groups := by
  induction ran generalizing s with
  | nil => exact h
  | cons g gs ih => exact ih (h.recordRun g.name time)

end AlertPolicy.Engine
