import AlertPolicy.Engine.Work
import AlertPolicy.Proofs.Engine.Intervals

/-!
What comes of a fetch that failed. The group of the rule counts as run all the same, so the rule is
evaluated again in the first tick that comes late enough for the interval of its group, and in no
tick before that one.
-/

namespace AlertPolicy.Engine

open Policy Store Time

variable {s : State} {past : List Event} {g : Group} {r : Rule}

theorem group?_of_name_mem {d : Document} {name : String} (h : name ∈ d.groups.map (·.name)) :
    ∃ g, d.group? name = some g := by
  obtain ⟨g, hg, rfl⟩ := List.mem_map.1 h
  exact Option.isSome_iff_exists.1 (List.find?_isSome.2 ⟨g, hg, by simp⟩)

theorem lastNamed_of_name_mem {groups : List Group} {name : String}
    (h : name ∈ groups.map (·.name)) : ∃ found, Schedule.lastNamed name 0 groups = some found := by
  cases hfound : Schedule.lastNamed name 0 groups with
  | none => exact absurd h (Schedule.lastNamed_eq_none.1 hfound)
  | some found => exact ⟨found, rfl⟩

theorem mem_running_of_group? {name : String} (hg : s.document.group? name = some g)
    (time : Instant) :
    g ∈ s.running time ↔ s.schedule.shouldRun name time = true := by
  rw [← Schedule.mem_due, State.running, List.mem_filterMap]
  constructor
  · intro ⟨other, hdue, hfound⟩
    rw [← name_of_group? hg, name_of_group? hfound]
    exact hdue
  · intro hdue
    exact ⟨name, hdue, hg⟩

/-- What is done for a rule of a group that runs is a part of what the tick does. -/
theorem effects_of_running (source : Source) {time : Instant} (hg : g ∈ s.running time) {i : Nat}
    (hr : g.rules[i]? = some r) :
    (evaluateRule source time g i r).effects <:+: (s.tick source time).1.trace := by
  have ho : evaluateRule source time g i r ∈ (s.running time).flatMap (outcomes source time) := by
    refine List.mem_flatMap.2 ⟨g, hg, List.mem_map.2 ⟨(r, i), ?_, rfl⟩⟩
    exact List.mem_zipIdx_iff_getElem?.2 hr
  have htrace : (s.tick source time).1.trace =
      ((s.running time).flatMap (outcomes source time)).flatMap Outcome.effects := by
    rw [State.tick, runTick_eq]
    rfl
  obtain ⟨before, after, heq⟩ := List.append_of_mem ho
  rw [htrace, heq, List.flatMap_append, List.flatMap_cons, ← List.append_assoc]
  exact List.infix_append _ _ _

theorem mem_fetches_of_infix {o : Outcome} {t : Tick} {v : String} (h : o.effects <:+: t.trace)
    (hv : o.fetched = some v) : v ∈ t.fetches := by
  refine (h.filterMap Effect.fetch?).subset ?_
  rw [fetch?_effects, hv]
  exact List.mem_singleton_self v

theorem watches_of_failed {source : Source} {time : Instant} {i : Nat} {e : StoreError}
    (h : (evaluateRule source time g i r).result = .error (.store e)) :
    ∃ c v, Watches r c v ∧ source v = .error e := by
  cases standing r with
  | unreadable f hf =>
      rw [evaluateRule_unreadable hf] at h
      cases h
  | unbounded c f hc hf =>
      rw [evaluateRule_unbounded hc hf] at h
      cases h
  | literal c t hc ht hleft =>
      rw [evaluateRule_literal hc ht hleft] at h
      cases h
  | watching c v hw =>
      cases hv : source v with
      | error f =>
          rw [evaluateRule_failed hw hv] at h
          cases h
          exact ⟨c, v, hw, hv⟩
      | ok series =>
          obtain ⟨labels, hl⟩ := evaluate_of_isFiniteNumber hw.bounded series
          rw [evaluateRule_reported hw hv hl] at h
          cases h

/-! ### Waiting for the interval -/

/-- At the time, the interval in force for the name has not passed since it ran last. -/
def State.TooSoon (s : State) (name : String) (last time : Instant) : Prop :=
  ∃ i final p, Schedule.lastNamed name 0 s.document.groups = some (i, final) ∧
    Schedule.periodOf final = some p ∧
      time.nanoseconds - last.nanoseconds < (p.milliseconds * 1000000 : Int)

theorem lastRun_append {name : String} {last : Instant} {more : List Event}
    (h : LastRun name last past) (hmore : ∀ x ∈ more, x.Keeps name) :
    LastRun name last (more ++ past) := by
  induction more with
  | nil => exact h
  | cons x xs ih =>
      refine lastRun_cons.2 (.inr ⟨hmore x List.mem_cons_self, ih ?_⟩)
      exact fun y hy => hmore y (List.mem_cons_of_mem x hy)

section AnyLibrary

variable [Yaml.Library]

/-- The actions leave the name in the document, and each tick among them comes too soon for it. -/
def State.Waits (s : State) (name : String) (last : Instant) : List Action → Prop
  | [] => True
  | .tick source time :: actions =>
      s.TooSoon name last time ∧ (s.act (.tick source time)).Waits name last actions
  | .reload file :: actions =>
      name ∈ (s.afterReload file).document.groups.map (·.name) ∧
        (s.afterReload file).Waits name last actions

/-- A group that ran is due again by the interval of its name and by nothing else. -/
theorem runs_again_iff {name : String} {last : Instant} (h : Reached s past)
    (hlast : LastRun name last past) {i : Nat} {final : Group}
    (hfinal : Schedule.lastNamed name 0 s.document.groups = some (i, final))
    (hg : s.document.group? name = some g) (time : Instant) :
    g ∈ s.running time ↔ Schedule.periodOf final = none ∨
      ∃ p, Schedule.periodOf final = some p ∧
        (p.milliseconds * 1000000 : Int) ≤ time.nanoseconds - last.nanoseconds := by
  obtain ⟨-, rfl⟩ := Schedule.mem_of_lastNamed hfinal
  rw [mem_running_of_group? hg, Schedule.shouldRun_iff_of_lastNamed h.follows hfinal,
    (h.lastRun? _ _).2 hlast]
  simp

theorem keeps_of_tooSoon {name : String} {last time : Instant} (h : Reached s past)
    (hlast : LastRun name last past) (hsoon : s.TooSoon name last time) (source : Source) :
    ∀ x ∈ s.happened (.tick source time), x.Keeps name := by
  obtain ⟨i, final, p, hfinal, hp, hlt⟩ := hsoon
  intro x hx
  cases List.mem_singleton.1 hx
  intro hmem
  obtain ⟨g, hg, rfl⟩ := List.mem_map.1 hmem
  rw [groups_tick] at hg
  obtain ⟨name, -, hfound⟩ := List.mem_filterMap.1 hg
  rw [← name_of_group? hfound] at hfound
  cases (runs_again_iff h hlast hfinal hfound time).1 hg with
  | inl hnone =>
      rw [hp] at hnone
      contradiction
  | inr hpassed =>
      obtain ⟨p', hp', hle⟩ := hpassed
      rw [hp] at hp'
      cases hp'
      omega

theorem keeps_of_reload {name : String} {file : Option ByteArray}
    (hname : name ∈ (s.afterReload file).document.groups.map (·.name)) :
    ∀ x ∈ s.happened (.reload file), x.Keeps name := by
  cases reloading s file with
  | kept hafter hsaid =>
      rw [hsaid]
      exact fun x hx => absurd hx List.not_mem_nil
  | loaded d hpath hload hafter hsaid =>
      rw [hsaid]
      intro x hx
      cases List.mem_singleton.1 hx
      rw [hafter] at hname
      exact hname

/-- A group that has to wait is not touched, and its name stays. -/
theorem keeps_of_waits {name : String} {last : Instant} {actions : List Action}
    (h : Reached s past) (hname : name ∈ s.document.groups.map (·.name))
    (hlast : LastRun name last past) (hwaits : s.Waits name last actions) :
    (∀ x ∈ s.story actions, x.Keeps name) ∧
      name ∈ (s.afterAll actions).document.groups.map (·.name) := by
  -- One action at a time: what it does keeps the name, so the last run of the name stays the same
  -- and the ticks that follow are measured against it.
  induction actions generalizing s past with
  | nil => exact ⟨fun x hx => absurd hx List.not_mem_nil, hname⟩
  | cons a actions ih =>
      have hstep : (∀ x ∈ s.happened a, x.Keeps name) ∧
          name ∈ (s.act a).document.groups.map (·.name) ∧ (s.act a).Waits name last actions := by
        cases a with
        | tick source time => exact ⟨keeps_of_tooSoon h hlast hwaits.1 source, hname, hwaits.2⟩
        | reload file => exact ⟨keeps_of_reload hwaits.1, hwaits.1, hwaits.2⟩
      obtain ⟨hkeeps, hname', hwaits'⟩ := hstep
      obtain ⟨hrest, hfinal⟩ := ih (h.act a) hname' (lastRun_append hlast hkeeps) hwaits'
      refine ⟨?_, hfinal⟩
      intro x hx
      cases List.mem_append.1 hx with
      | inl hx => exact hrest x hx
      | inr hx => exact hkeeps x hx

/-- Let the fetch for a rule fail in a tick, and let ticks and reloads follow that keep the name of
the group in the document, each tick too soon for the interval in force then. None of those ticks
runs a group of the name, although the fetch failed. The next tick runs it if and only if the name
has no interval or the interval in force has passed since the tick of the failure, and then the
rule, wherever it stands in the group, is evaluated and its variable fetched. -/
theorem failed_fetch_counts_as_run (h : Reached s past) {source : Source} {time : Instant}
    (hran : g ∈ (s.tick source time).1.groups) {i : Nat} (hr : g.rules[i]? = some r)
    {e : StoreError} (hfailed : (evaluateRule source time g i r).result = .error (.store e))
    {actions : List Action} (hwaits : (s.tick source time).2.Waits g.name time actions) :
    let next := (s.tick source time).2.afterAll actions
    ∃ v current k final, source v = .error e ∧ v ∈ (s.tick source time).1.fetches ∧
      (∀ x ∈ (s.tick source time).2.story actions, x.Keeps g.name) ∧
      next.document.group? g.name = some current ∧
      Schedule.lastNamed g.name 0 next.document.groups = some (k, final) ∧
      ∀ source' time',
        (current ∈ (next.tick source' time').1.groups ↔ Schedule.periodOf final = none ∨
          ∃ p, Schedule.periodOf final = some p ∧
            (p.milliseconds * 1000000 : Int) ≤ time'.nanoseconds - time.nanoseconds) ∧
        (current ∈ (next.tick source' time').1.groups → ∀ j, current.rules[j]? = some r →
          (evaluateRule source' time' current j r).effects <:+: (next.tick source' time').1.trace ∧
            v ∈ (next.tick source' time').1.fetches) ∧
        (current ∉ (next.tick source' time').1.groups →
          ∀ x ∈ (next.tick source' time').1.groups, x.name ≠ g.name) := by
  intro next
  obtain ⟨c, v, hw, hv⟩ := watches_of_failed hfailed
  rw [groups_tick] at hran
  have hfirst := mem_fetches_of_infix (effects_of_running source hran hr)
    ((evaluateRule_isOutcome source time g i r).fetched c v hw)
  have hlast : LastRun g.name time (s.happened (.tick source time) ++ past) := by
    refine ⟨[], _, past, rfl, ?_, fun x hx => absurd hx List.not_mem_nil⟩
    rw [groups_tick]
    exact List.mem_map_of_mem hran
  have hname : g.name ∈ s.document.groups.map (·.name) := List.mem_map_of_mem (mem_of_group? hran)
  obtain ⟨hkeeps, hstays⟩ := keeps_of_waits (h.act (.tick source time)) hname hlast hwaits
  obtain ⟨current, hcurrent⟩ := group?_of_name_mem (d := next.document) hstays
  obtain ⟨⟨k, final⟩, hfinal⟩ := lastNamed_of_name_mem hstays
  refine ⟨v, current, k, final, hv, hfirst, hkeeps, hcurrent, hfinal, ?_⟩
  intro source' time'
  have hnext : Reached next _ := (h.act (.tick source time)).afterAll actions
  rw [groups_tick]
  refine ⟨runs_again_iff hnext (lastRun_append hlast hkeeps) hfinal hcurrent time', ?_, ?_⟩
  · intro hruns j hj
    have heffects := effects_of_running source' hruns hj
    exact ⟨heffects, mem_fetches_of_infix heffects
      ((evaluateRule_isOutcome source' time' current j r).fetched c v hw)⟩
  · intro hrests x hx hname
    obtain ⟨name, hdue, hfound⟩ := List.mem_filterMap.1 hx
    rw [← name_of_group? hfound, hname, hcurrent] at hfound
    cases hfound
    exact hrests hx

end AnyLibrary

theorem failed_fetch_counts_as_run_ten_seconds :
    let g : Group := ⟨"a", .empty, some "10s", [⟨"r", "vm.rx > 1"⟩]⟩
    let down : Source := fun _ => .error .server
    let failed := ((State.ofDocument ⟨[g]⟩).tick down ⟨0⟩).2
    let next := failed.afterAll [.tick down ⟨1000000000⟩]
    (∀ x ∈ failed.story [.tick down ⟨1000000000⟩], x.Keeps g.name) ∧
      g ∉ (next.tick down ⟨9999999999⟩).1.groups ∧ g ∈ (next.tick down ⟨10000000000⟩).1.groups ∧
        "vm.rx" ∈ (next.tick down ⟨10000000000⟩).1.fetches := by
  intro g down failed next
  have hran : g ∈ ((State.ofDocument ⟨[g]⟩).tick down ⟨0⟩).1.groups := by decide +kernel
  have hr : g.rules[0]? = some ⟨"r", "vm.rx > 1"⟩ := rfl
  have hfailed : (evaluateRule down ⟨0⟩ g 0 ⟨"r", "vm.rx > 1"⟩).result = .error (.store .server) :=
    rfl
  have hlastNamed : Schedule.lastNamed g.name 0 [g] = some (0, g) := by decide +kernel
  have hperiod : Schedule.periodOf g = some ⟨10000, by decide, by decide⟩ := by decide +kernel
  have hwaits : failed.Waits g.name ⟨0⟩ [.tick down ⟨1000000000⟩] :=
    ⟨⟨0, g, _, hlastNamed, hperiod, by decide⟩, trivial⟩
  obtain ⟨v, current, k, final, -, hfetched, hkeeps, hcurrent, hfinal, hnext⟩ :=
    failed_fetch_counts_as_run (.start (.ofDocument _)) hran hr hfailed hwaits
  have hv : ((State.ofDocument ⟨[g]⟩).tick down ⟨0⟩).1.fetches = ["vm.rx"] := by decide +kernel
  have hg : next.document.group? g.name = some g := by decide +kernel
  cases List.mem_singleton.1 (hv ▸ hfetched)
  cases hg.symm.trans hcurrent
  cases hlastNamed.symm.trans hfinal
  have hearly := (hnext down ⟨9999999999⟩).1
  obtain ⟨hlate, hevaluated, -⟩ := hnext down ⟨10000000000⟩
  have hruns := hlate.2 (.inr ⟨_, hperiod, by decide⟩)
  refine ⟨hkeeps, ?_, hruns, (hevaluated hruns 0 hr).2⟩
  intro hrun
  rcases hearly.1 hrun with hnone | ⟨p, hp, hle⟩
  · rw [hperiod] at hnone
    contradiction
  · rw [hperiod] at hp
    cases hp
    contradiction

/-- The tick right after the failed fetch does not try it again while the interval lasts. -/
theorem failed_fetch_is_not_retried :
    let g : Group := ⟨"a", .empty, some "10s", [⟨"r", "vm.rx > 1"⟩]⟩
    let down : Source := fun _ => .error (.invalidVariable "vm.rx")
    let s := State.ofDocument ⟨[g]⟩
    let first := s.tick down ⟨0⟩
    let second := first.2.tick down ⟨1000000000⟩
    Started s ∧ g ∈ first.1.groups ∧ first.1.fetches = ["vm.rx"] ∧
      (evaluateRule down ⟨0⟩ g 0 ⟨"r", "vm.rx > 1"⟩).result =
        .error (.store (.invalidVariable "vm.rx")) ∧
      first.2.document.groups = [g] ∧ second.1.groups = [] ∧ second.1.fetches = [] := by
  intro g down s first second
  refine ⟨.ofDocument _, ?_, ?_, ?_, rfl, ?_, ?_⟩
  · decide +kernel
  · decide +kernel
  · rfl
  · decide +kernel
  · decide +kernel

end AlertPolicy.Engine
