import AlertPolicy.Proofs.Engine.History

/-!
When the groups of a document run. A group waits for its interval to pass from its last run, and it
keeps waiting over every reload that leaves its name in the document; the clock may be set back at
will meanwhile.
-/

namespace AlertPolicy.Engine

open Policy Store Time

/-- A group of the document is the only one of its name. -/
theorem mem_of_name_mem {groups ran : List Group} {g : Group} (hd : (groups.map (·.name)).Nodup)
    (hran : ∀ x ∈ ran, x ∈ groups) (hg : g ∈ groups) (hname : g.name ∈ ran.map (·.name)) :
    g ∈ ran := by
  obtain ⟨x, hx, heq⟩ := List.mem_map.1 hname
  have hfound := Schedule.find?_key_of_mem hd (hran x hx)
  rw [heq, Schedule.find?_key_of_mem hd hg] at hfound
  cases hfound
  exact hx

section AnyLibrary

variable [Yaml.Library] {s : State} {past : List Event}

theorem mem_groups_tick (h : Reached s past) (hd : s.document.NamesDiffer) {g : Group}
    (hg : g ∈ s.document.groups) (source : Source) (time : Instant) :
    g ∈ (s.tick source time).1.groups ↔ s.schedule.shouldRun g.name time = true := by
  have hgroups : (s.tick source time).1.groups = s.dueGroups time := by
    rw [tick_of_follows h.follows hd]
    rfl
  rw [hgroups, State.dueGroups, List.mem_filter]
  exact ⟨fun hrun => hrun.2, fun hrun => ⟨hg, hrun⟩⟩

theorem lastRun?_eq_none (h : Reached s past) (name : String) :
    s.schedule.lastRun? name = none ↔ ∀ last, ¬ LastRun name last past := by
  rw [Option.eq_none_iff_forall_ne_some]
  constructor
  · intro hnone last hlast
    exact hnone last ((h.lastRun? name last).2 hlast)
  · intro hnever last hlast
    exact hnever last ((h.lastRun? name last).1 hlast)

/-- Nothing is known of a name that the document in force does not have. -/
theorem lastRun?_of_not_mem (h : Reached s past) {name : String}
    (hname : name ∉ s.document.groups.map (·.name)) : s.schedule.lastRun? name = none := by
  cases hget : s.schedule.get? name with
  | none => rw [Schedule.lastRun?, hget, Option.bind_none]
  | some e =>
      have hknown : (s.schedule.get? name).isSome := by rw [hget, Option.isSome_some]
      exact absurd (h.follows.get?_isSome.1 hknown) hname

/-- Whether a group runs in a tick is told by its interval and its last run, and the last run by the
history alone. -/
theorem runs_iff (h : Reached s past) (hd : s.document.NamesDiffer) {g : Group}
    (hg : g ∈ s.document.groups) (source : Source) (time : Instant) :
    g ∈ (s.tick source time).1.groups ↔
      Schedule.periodOf g = none ∨ (∀ last, ¬ LastRun g.name last past) ∨
        ∃ p last, Schedule.periodOf g = some p ∧ LastRun g.name last past ∧
          (p.milliseconds * 1000000 : Int) ≤ time.nanoseconds - last.nanoseconds := by
  rw [mem_groups_tick h hd hg, Schedule.shouldRun_iff h.follows hd hg, lastRun?_eq_none h]
  simp only [h.lastRun?]

/-- A name that stays keeps its last run, whatever else of the document changes. -/
theorem lastRun?_afterReload {file : Option ByteArray} {name : String}
    (hname : name ∈ (s.afterReload file).document.groups.map (·.name)) :
    (s.afterReload file).schedule.lastRun? name = s.schedule.lastRun? name := by
  cases reloading s file with
  | kept hafter => rw [hafter]
  | loaded d hpath hload hafter =>
      rw [hafter] at hname ⊢
      change (s.schedule.sync d.groups).lastRun? name = _
      rw [Schedule.lastRun?_sync]
      exact if_pos hname

/-- Groups run by their intervals and their last runs, over ticks at any times and reloads of any
files: a group that stays does not run again before its interval has passed, a reload that keeps its
name keeps its last run, and a name that was gone starts anew. -/
theorem groups_wait_for_intervals (h : Reached s past)
    (hd : ∀ d, .loaded d ∈ past → d.NamesDiffer) :
    (∀ name last, s.schedule.lastRun? name = some last ↔ LastRun name last past) ∧
    (∀ g ∈ s.document.groups, ∀ source time,
      g ∈ (s.tick source time).1.groups ↔
        Schedule.periodOf g = none ∨ (∀ last, ¬ LastRun g.name last past) ∨
          ∃ p last, Schedule.periodOf g = some p ∧ LastRun g.name last past ∧
            (p.milliseconds * 1000000 : Int) ≤ time.nanoseconds - last.nanoseconds) ∧
    (∀ after time names before d g p last, past = after ++ .ran time names :: before →
      inForce before = some d → g ∈ d.groups → g.name ∈ names →
      Schedule.periodOf g = some p → LastRun g.name last before →
        (p.milliseconds * 1000000 : Int) ≤ time.nanoseconds - last.nanoseconds) ∧
    (∀ file name, name ∈ (s.afterReload file).document.groups.map (·.name) →
      (s.afterReload file).schedule.lastRun? name = s.schedule.lastRun? name) ∧
    ∀ file d g, s.path ≠ none → Document.loadFile file = .ok d → g ∈ d.groups →
      g.name ∉ s.document.groups.map (·.name) →
        (∀ last, ¬ LastRun g.name last (s.happened (.reload file) ++ past)) ∧
          ∀ source time, g ∈ ((s.afterReload file).tick source time).1.groups := by
  refine ⟨h.lastRun?, ?_, ?_, fun file name => lastRun?_afterReload, ?_⟩
  · intro g hg source time
    exact runs_iff h (hd _ (mem_of_inForce h.inForce)) hg source time
  · intro after time names before d g p last heq hforce hg hname hperiod hlast
    obtain ⟨s', source, hs', rfl⟩ := h.ran heq
    have hdocument : s'.document = d := by
      rw [hs'.inForce] at hforce
      exact Option.some.inj hforce
    subst hdocument
    have hnames : s'.document.NamesDiffer := by
      apply hd
      rw [heq]
      exact List.mem_append_right _ (List.mem_cons_of_mem _ (mem_of_inForce hforce))
    have hran : g ∈ (s'.tick source time).1.groups := by
      refine mem_of_name_mem hnames ?_ hg hname
      rw [groups_tick]
      exact fun x hx => mem_of_group? hx
    have hreasons := (runs_iff hs' hnames hg source time).1 hran
    rcases hreasons with hnone | hnever | ⟨p', last', hp, hl, hle⟩
    · rw [hperiod] at hnone
      contradiction
    · exact absurd hlast (hnever last)
    · rw [hperiod] at hp
      cases hp
      have hsame := (hs'.lastRun? g.name last).2 hlast
      rw [(hs'.lastRun? g.name last').2 hl] at hsame
      cases hsame
      exact hle
  · intro file d g hpath hload hg hname
    have hnext := h.act (.reload file)
    have hafter := afterReload_of_loadFile hpath hload
    have hnever : ∀ last, ¬ LastRun g.name last (s.happened (.reload file) ++ past) := by
      intro last hlast
      rw [← hnext.lastRun?, State.act, lastRun?_afterReload, lastRun?_of_not_mem h hname] at hlast
      · contradiction
      · rw [hafter]
        exact List.mem_map_of_mem hg
    refine ⟨hnever, ?_⟩
    intro source time
    refine (runs_iff hnext ?_ ?_ source time).2 (.inr (.inl hnever))
    · rw [State.act, hafter]
      exact namesDiffer_of_loadFile hload
    · rw [State.act, hafter]
      exact hg

end AnyLibrary

theorem groups_wait_for_intervals_ten_seconds :
    let g : Group := ⟨"load", .empty, some "10s", []⟩
    let s := State.ofDocument ⟨[g]⟩
    let next := (s.tick (fun _ => .ok []) ⟨0⟩).2
    g ∈ (s.tick (fun _ => .ok []) ⟨0⟩).1.groups ∧
      g ∉ (next.tick (fun _ => .ok []) ⟨9999999999⟩).1.groups ∧
      g ∈ (next.tick (fun _ => .ok []) ⟨10000000000⟩).1.groups := by
  intro g s next
  have hs : Reached s [.loaded ⟨[g]⟩] := .start (.ofDocument _)
  have hnext := hs.act (.tick (fun _ => .ok []) ⟨0⟩)
  have hd (d : Document) (hmem : .loaded d ∈ [Event.loaded ⟨[g]⟩]) : d.NamesDiffer := by
    cases List.mem_singleton.1 hmem
    decide
  have hd' (d : Document) (hmem : .loaded d ∈ s.happened (.tick (fun _ => .ok []) ⟨0⟩) ++
      [Event.loaded ⟨[g]⟩]) : d.NamesDiffer := by
    cases List.mem_cons.1 hmem with
    | inl h => cases h
    | inr h => exact hd d h
  have hmem : g ∈ s.document.groups := List.mem_cons_self
  have hfirst := (groups_wait_for_intervals hs hd).2.1 g hmem
  have hsecond := (groups_wait_for_intervals hnext hd').2.1 g hmem
  have hran : g ∈ (s.tick (fun _ => .ok []) ⟨0⟩).1.groups := by
    refine (hfirst _ _).2 (.inr (.inl ?_))
    intro last hlast
    exact not_lastRun_nil (lastRun_loaded.1 hlast).2
  have hlast (last : Instant) : LastRun g.name last
      (s.happened (.tick (fun _ => .ok []) ⟨0⟩) ++ [.loaded ⟨[g]⟩]) ↔ ⟨0⟩ = last := by
    rw [State.happened, List.singleton_append, lastRun_ran, if_pos (List.mem_map_of_mem hran)]
  have hperiod : Schedule.periodOf g = some ⟨10000, by decide, by decide⟩ := by decide
  refine ⟨hran, ?_, ?_⟩
  · intro hmem
    rcases (hsecond _ _).1 hmem with hnone | hnever | ⟨p, last, hp, hl, hle⟩
    · rw [hperiod] at hnone
      contradiction
    · exact hnever ⟨0⟩ ((hlast ⟨0⟩).2 rfl)
    · rw [hperiod] at hp
      cases hp
      cases (hlast last).1 hl
      contradiction
  · refine (hsecond _ _).2 (.inr (.inr ⟨_, ⟨0⟩, hperiod, (hlast ⟨0⟩).2 rfl, ?_⟩))
    decide

end AlertPolicy.Engine
