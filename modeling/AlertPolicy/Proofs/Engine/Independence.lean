import AlertPolicy.Proofs.Engine.History

/-!
Ticks of an engine in any state it can reach. A tick is the outcomes of the rules of the groups that
are due, in the order of the document, and the outcome of a rule does not depend on any other rule.
-/

namespace AlertPolicy.Engine

open Policy Store Time

/-- The document with another text for one expression. -/
def withExpr (d : Document) (i j : Nat) (expr : String) : Document :=
  ⟨d.groups.modify i fun g => { g with rules := g.rules.modify j fun r => { r with expr := expr } }⟩

def State.withExpr (s : State) (i j : Nat) (expr : String) : State :=
  { s with document := Engine.withExpr s.document i j expr }

/-- The outcome is not that of the rule at `index` of the group. -/
def Outcome.isOther (group : String) (index : Nat) (o : Outcome) : Bool :=
  !(o.group == group && o.index == index)

/-- The report is not that of the rule at `index` of the group. -/
def isOtherReport (group : String) (index : Nat) (r : Report) : Bool :=
  !(r.group == group && r.index == index)

variable {source : Source} {time : Instant}

/-! ### Independence -/

theorem outcomesFrom_congr {g h : Group} (hname : h.name = g.name)
    (hannotations : h.annotations = g.annotations) (index : Nat) (rs : List Rule) :
    outcomesFrom source time h index rs = outcomesFrom source time g index rs := by
  rw [outcomesFrom, outcomesFrom]
  refine List.map_congr_left ?_
  intro p hp
  unfold evaluateRule
  simp only [hname, hannotations]

theorem outcomesFrom_append (g : Group) (index : Nat) (rs : List Rule) (r : Rule)
    (rs' : List Rule) :
    outcomesFrom source time g index (rs ++ r :: rs') =
      outcomesFrom source time g index rs ++ evaluateRule source time g (index + rs.length) r ::
        outcomesFrom source time g (index + rs.length + 1) rs' := by
  rw [outcomesFrom, List.zipIdx_append, List.map_append, List.zipIdx_cons, List.map_cons]
  rfl

theorem isOther_evaluateRule (g : Group) (j : Nat) (r : Rule) :
    (evaluateRule source time g j r).isOther g.name j = false := by
  obtain ⟨⟨hgroup, hindex, -⟩, -⟩ := evaluateRule_isOutcome source time g j r
  rw [Outcome.isOther, hgroup, hindex, beq_self_eq_true, beq_self_eq_true]
  rfl

/-- Within its group, a rule leaves the outcomes of the others as they are. -/
theorem outcomes_modify (g : Group) {j : Nat} (hj : j < g.rules.length) (f : Rule → Rule) :
    (outcomes source time { g with rules := g.rules.modify j f }).filter (·.isOther g.name j) =
      (outcomes source time g).filter (·.isOther g.name j) := by
  obtain ⟨rs, r, rs', hrules, rfl, hmodify⟩ := List.exists_of_modify f hj
  -- Whatever rule stands at the place, its outcome is the only one that is left out.
  have hother (x : Rule) :
      (outcomesFrom source time g 0 (rs ++ x :: rs')).filter (·.isOther g.name rs.length) =
        (outcomesFrom source time g 0 rs).filter (·.isOther g.name rs.length) ++
          (outcomesFrom source time g (0 + rs.length + 1) rs').filter
            (·.isOther g.name rs.length) := by
    rw [outcomesFrom_append, List.filter_append, List.filter_cons_of_neg]
    rw [Nat.zero_add, isOther_evaluateRule]
    exact Bool.false_ne_true
  have hsame (xs : List Rule) :
      outcomesFrom source time { g with rules := g.rules.modify rs.length f } 0 xs =
        outcomesFrom source time g 0 xs := outcomesFrom_congr rfl rfl 0 xs
  rw [outcomes, hsame]
  change (outcomesFrom source time g 0 (g.rules.modify rs.length f)).filter _ =
    (outcomesFrom source time g 0 g.rules).filter _
  rw [hmodify, hother, hrules, hother]

/-- Other groups and the rest of its own group give what they gave before. -/
theorem outcomes_withExpr (s : State) {i j : Nat} {g : Group} {r : Rule} (expr : String)
    (hg : s.document.groups[i]? = some g) (hr : g.rules[j]? = some r) :
    ((s.withExpr i j expr).outcomes source time).filter
        (·.isOther g.name j) =
      (s.outcomes source time).filter (·.isOther g.name j) := by
  obtain ⟨hi, hget⟩ := List.getElem?_eq_some_iff.1 hg
  obtain ⟨hj, -⟩ := List.getElem?_eq_some_iff.1 hr
  obtain ⟨gs, g', gs', hgroups, rfl, hmodify⟩ := List.exists_of_modify
    (fun g : Group => { g with rules := g.rules.modify j fun r => { r with expr := expr } }) hi
  have hsame : g' = g := by
    rw [hgroups, List.getElem?_append_right (Nat.le_refl _), Nat.sub_self] at hg
    exact Option.some.inj hg
  subst hsame
  simp only [State.outcomes, State.dueGroups, State.withExpr, withExpr, hmodify, List.filter_append,
    List.filter_cons, List.flatMap_append]
  conv => rhs; rw [hgroups]
  simp only [List.filter_append, List.filter_cons, List.flatMap_append]
  cases s.schedule.shouldRun g'.name time with
  | false => rfl
  | true =>
      simp only [if_true, List.flatMap_cons, List.filter_append]
      rw [outcomes_modify g' hj]

theorem place_of_report? {g : Group} {i : Nat} {r : Rule} {report : Report}
    (h : (evaluateRule source time g i r).report? = some report) :
    report.group = g.name ∧ report.index = i := by
  cases standing r with
  | unreadable e he =>
      rw [evaluateRule_unreadable he] at h
      contradiction
  | unbounded c e hc he =>
      rw [evaluateRule_unbounded hc he] at h
      contradiction
  | literal c t hc ht hleft =>
      rw [evaluateRule_literal hc ht hleft] at h
      contradiction
  | watching c v hw =>
      cases hv : source v with
      | error e =>
          rw [evaluateRule_failed hw hv] at h
          contradiction
      | ok series =>
          obtain ⟨labels, hl⟩ := evaluate_of_isFiniteNumber hw.bounded series
          rw [evaluateRule_reported hw hv hl] at h
          cases h
          exact ⟨rfl, rfl⟩

theorem exists_of_mem_outcomes {s : State} {o : Outcome} (h : o ∈ s.outcomes source time) :
    ∃ g ∈ s.dueGroups time, ∃ i r, g.rules[i]? = some r ∧ o = evaluateRule source time g i r := by
  obtain ⟨g, hg, ho⟩ := List.mem_flatMap.1 h
  obtain ⟨⟨r, i⟩, hr, heq⟩ := List.mem_map.1 ho
  exact ⟨g, hg, i, r, List.mem_zipIdx_iff_getElem?.1 hr, heq.symm⟩

/-- The reports of the other rules are what their outcomes tell. -/
theorem filter_reports (s : State) (name : String) (j : Nat) :
    ((s.outcomes source time).filterMap Outcome.report?).filter (isOtherReport name j) =
      ((s.outcomes source time).filter (·.isOther name j)).filterMap Outcome.report? := by
  have hplace : ∀ o ∈ s.outcomes source time, ∀ report, o.report? = some report →
      isOtherReport name j report = o.isOther name j := by
    intro o ho report hreport
    obtain ⟨g, -, i, r, -, rfl⟩ := exists_of_mem_outcomes ho
    obtain ⟨hgroup, hindex⟩ := place_of_report? hreport
    obtain ⟨⟨hgroup', hindex', -⟩, -⟩ := evaluateRule_isOutcome source time g i r
    rw [isOtherReport, Outcome.isOther, hgroup, hindex, hgroup', hindex']
  generalize s.outcomes source time = os at hplace
  induction os with
  | nil => rfl
  | cons o os ih =>
      have hos := ih fun x hx => hplace x (List.mem_cons_of_mem _ hx)
      cases hreport : o.report? with
      | none =>
          rw [List.filterMap_cons_none hreport, List.filter_cons, hos]
          split
          · rw [List.filterMap_cons_none hreport]
          · rfl
      | some report =>
          have hother := hplace o List.mem_cons_self report hreport
          rw [List.filterMap_cons_some hreport, List.filter_cons, List.filter_cons, hother, hos]
          split
          · rw [List.filterMap_cons_some hreport]
          · rfl

/-! ### Ticks -/

theorem length_state_outcomes (s : State) (source : Source) (time : Instant) :
    (s.outcomes source time).length = ((s.dueGroups time).flatMap (·.rules)).length := by
  rw [State.outcomes, List.length_flatMap, List.length_flatMap]
  simp only [length_outcomes]

theorem keys_withExpr (d : Document) (i j : Nat) (expr : String) :
    (withExpr d i j expr).groups.map Schedule.key = d.groups.map Schedule.key := by
  obtain ⟨gs⟩ := d
  simp only [withExpr]
  induction gs generalizing i with
  | nil => rw [List.modify_nil]
  | cons g gs ih =>
      cases i with
      | zero => rfl
      | succ i => rw [List.modify_succ_cons, List.map_cons, List.map_cons, ih]

theorem names_dueGroups (s : State) (time : Instant) :
    (s.dueGroups time).map (·.name) =
      (s.document.groups.map (·.name)).filter fun name => s.schedule.shouldRun name time := by
  rw [List.filter_map]
  rfl

theorem recordRuns_eq_foldl (s : Schedule) (time : Instant) (groups : List Group) :
    recordRuns s time groups =
      (groups.map (·.name)).foldl (fun s name => s.recordRun name time) s := by
  rw [List.foldl_map]
  rfl

/-- The tick is the outcomes of the rules of the groups that are due, one after the other, and each
outcome is counted once. -/
structure IsConcatenation (s : State) (source : Source) (time : Instant) (t : Tick) : Prop where
  groups : t.groups = s.dueGroups time
  trace : t.trace = (s.outcomes source time).flatMap Outcome.effects
  fetches : t.fetches = (s.outcomes source time).flatMap (·.fetched.toList)
  reports : t.reports = (s.outcomes source time).filterMap Outcome.report?
  summary : t.summary = {
    time := time
    groups := t.groups.length
    evaluated := t.reports.length
    fired := t.reports.countP fun r => !r.labels.isEmpty
    failed := (s.outcomes source time).countP (·.report?.isNone) }
  total : t.summary.evaluated + t.summary.failed = (t.groups.flatMap (·.rules)).length

theorem tick_isConcatenation {s : State} (h : s.schedule.Follows s.document.groups)
    (hd : s.document.NamesDiffer) (source : Source) (time : Instant) :
    IsConcatenation s source time (s.tick source time).1 := by
  have hreports : (s.tick source time).1.reports =
      (s.outcomes source time).filterMap Outcome.report? := by
    rw [tick_of_follows h hd, Tick.reports_extend]
    rfl
  have hsummary : (s.tick source time).1.summary =
      ⟨time, (s.dueGroups time).length, ((s.outcomes source time).filterMap Outcome.report?).length,
        ((s.outcomes source time).filterMap Outcome.report?).countP Report.fired,
        (s.outcomes source time).countP (·.report?.isNone)⟩ := by
    rw [tick_of_follows h hd]
    simp only [Tick.extend, Tick.start, Nat.zero_add]
  have hgroups : (s.tick source time).1.groups = s.dueGroups time := by
    rw [tick_of_follows h hd]
    rfl
  refine ⟨hgroups, ?_, ?_, hreports, ?_, ?_⟩
  · rw [tick_of_follows h hd]
    rfl
  · rw [tick_of_follows h hd, Tick.fetches_extend]
    rfl
  · rw [hsummary, hgroups, hreports]
    rfl
  · rw [hsummary, hgroups, ← length_state_outcomes, ← length_reports_add_failed]

theorem dueGroups_withExpr (s : State) (i j : Nat) (expr : String) (time : Instant) :
    ((s.withExpr i j expr).dueGroups time).map (·.name) = (s.dueGroups time).map (·.name) := by
  rw [names_dueGroups, names_dueGroups]
  congr 1
  exact Schedule.names_of_keys (keys_withExpr s.document i j expr)

/-- In every state that can be reached, a tick is a concatenation of outcomes, each of them is what
has to come of its rule, and each group that ran is recorded. With another text for one rule, the
outcomes of all other rules stay the same, and so does the schedule. -/
theorem tick_concatenates [Yaml.Library] {s : State} {past : List Event} (h : Reached s past)
    (hd : s.document.NamesDiffer) (source : Source) (time : Instant) :
    IsConcatenation s source time (s.tick source time).1 ∧
    s.schedule.due time = (s.dueGroups time).map (·.name) ∧
    (∀ g ∈ s.dueGroups time, (outcomes source time g).length = g.rules.length ∧
      ∀ i r, g.rules[i]? = some r →
        ∃ o, (outcomes source time g)[i]? = some o ∧ IsOutcome source time g i r o) ∧
    (∀ name, (s.tick source time).2.schedule.lastRun? name =
      if name ∈ s.schedule.due time then some time else s.schedule.lastRun? name) ∧
    ∀ i j g r expr, s.document.groups[i]? = some g → g.rules[j]? = some r →
      IsConcatenation (s.withExpr i j expr) source time
        ((s.withExpr i j expr).tick source time).1 ∧
      ((s.withExpr i j expr).outcomes source time).filter (·.isOther g.name j) =
        (s.outcomes source time).filter (·.isOther g.name j) ∧
      ((s.withExpr i j expr).tick source time).1.reports.filter (isOtherReport g.name j) =
        (s.tick source time).1.reports.filter (isOtherReport g.name j) ∧
      ((s.withExpr i j expr).tick source time).2 = (s.tick source time).2.withExpr i j expr := by
  have hfollows := h.follows
  have htick := tick_isConcatenation hfollows hd source time
  have hdue := Schedule.due_eq_filter hfollows hd time
  refine ⟨htick, hdue, ?_, ?_, ?_⟩
  · intro g hg
    refine ⟨length_outcomes source time g, ?_⟩
    intro i r hr
    refine ⟨evaluateRule source time g i r, ?_, evaluateRule_isOutcome source time g i r⟩
    rw [outcomes, outcomesFrom, List.getElem?_map, List.getElem?_zipIdx, hr]
    simp
  · intro name
    rw [tick_of_follows hfollows hd, hdue]
    exact lastRun?_recordRuns hfollows (fun g hg => (List.mem_filter.1 hg).1) time name
  · intro i j g r expr hg hr
    have hkeys := keys_withExpr s.document i j expr
    have hfollows' : (s.withExpr i j expr).schedule.Follows (s.withExpr i j expr).document.groups :=
      hfollows.congr hkeys
    have hd' : (s.withExpr i j expr).document.NamesDiffer := by
      change ((withExpr s.document i j expr).groups.map (·.name)).Nodup
      rw [Schedule.names_of_keys hkeys]
      exact hd
    have htick' := tick_isConcatenation hfollows' hd' source time
    have hsame : ((s.withExpr i j expr).outcomes source time).filter (·.isOther g.name j) =
        (s.outcomes source time).filter (·.isOther g.name j) := outcomes_withExpr s expr hg hr
    refine ⟨htick', hsame, ?_, ?_⟩
    · rw [htick'.reports, htick.reports, filter_reports, filter_reports, hsame]
    · rw [tick_of_follows hfollows' hd', tick_of_follows hfollows hd]
      simp only [State.withExpr, recordRuns_eq_foldl]
      rw [← dueGroups_withExpr s i j expr time]
      rfl

theorem tick_concatenates_two_groups :
    let s := State.ofDocument ⟨[⟨"load", .empty, some "10s", [⟨"up", "vm.rx > 1"⟩, ⟨"", "?"⟩]⟩,
      ⟨"link", .empty, none, []⟩]⟩
    let t := (s.tick (fun _ => .error .server) ⟨0⟩).1
    s.document.NamesDiffer ∧ IsConcatenation s (fun _ => .error .server) ⟨0⟩ t ∧
      t.groups = s.document.groups ∧ t.fetches = ["vm.rx"] := by
  intro s t
  have hd : s.document.NamesDiffer := by decide
  have h := (tick_concatenates (.start (.ofDocument s.document)) hd (fun _ => .error .server) ⟨0⟩).1
  exact ⟨hd, h, h.groups.trans (by decide), h.fetches.trans (by decide)⟩

end AlertPolicy.Engine
