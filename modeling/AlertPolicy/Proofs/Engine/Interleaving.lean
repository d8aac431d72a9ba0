import AlertPolicy.Proofs.Engine.Course
import AlertPolicy.Proofs.Engine.Reload
import AlertPolicy.Proofs.Engine.Turns
import Mathlib.Data.List.Induction

/-!
What holds however ticks and reloads interleave. A tick keeps to the document that it read when it
began, a run is recorded only for a group that was evaluated, and between two reloads the schedule
is in line with the document in force.
-/

namespace AlertPolicy.Engine

open Policy Store Time

variable {w : Interplay}

namespace Interplay

variable {t : Turn} {w' : Interplay}

/-! ### What holds between two steps -/

/-- The document that the schedule has been brought in line with last. -/
def tracked (w : Interplay) : Document :=
  match w.reload with
  | .synced d => d
  | _ => w.state.document

/-- The document is in force or on its way to be. -/
def Holds (w : Interplay) (d : Document) : Prop :=
  d = w.state.document ∨ w.reload = .loaded d ∨ w.reload = .synced d

/-- What holds of the ticks: those that are done have done all their work, and that which is under
way has done the first part of it. -/
structure Coherent (w : Interplay) : Prop where
  done : ∀ v ∈ w.done, ∃ gs did, OnCourse v gs did []
  opened : ∀ v, w.tick = .opened v → v = ⟨v.document, .start v.tick.time, []⟩
  working : ∀ v left, w.tick = .working v left →
    ∃ gs did rest, OnCourse v gs did rest ∧ (left = rest ∨ ∃ o, left = .settle o :: rest)

/-- A tick that waits for no answer is on its course with the work that is left. -/
theorem Coherent.exists_course (hw : w.Coherent) {v : Visit} {left : List Task}
    (htick : w.tick = .working v left) (hleft : ∀ o more, left ≠ .settle o :: more) :
    ∃ gs did, OnCourse v gs did left := by
  obtain ⟨gs, did, rest, hcourse, hrest | ⟨o, hrest⟩⟩ := hw.working v left htick
  · exact ⟨gs, did, hrest ▸ hcourse⟩
  · exact absurd hrest (hleft o rest)

theorem coherent_of_course (hdone : ∀ v ∈ w.done, ∃ gs did, OnCourse v gs did []) {v : Visit}
    {gs : List Group} {did left rest : List Task} (htick : w.tick = .working v left)
    (hcourse : OnCourse v gs did rest) (hleft : left = rest ∨ ∃ o, left = .settle o :: rest) :
    w.Coherent where
  done := hdone
  opened := by
    intro u hu
    rw [htick] at hu
    cases hu
  working := by
    intro u more hu
    rw [htick] at hu
    cases hu
    exact ⟨gs, did, rest, hcourse, hleft⟩

theorem Coherent.onCourse (h : w.Coherent) {v : Visit} (hv : v ∈ w.visits) :
    ∃ gs did left, OnCourse v gs did left := by
  rcases List.mem_append.1 hv with hv | hv
  · obtain ⟨gs, did, hcourse⟩ := h.done v hv
    exact ⟨gs, did, [], hcourse⟩
  · cases htick : w.tick with
    | idle =>
        rw [htick] at hv
        contradiction
    | opened u =>
        rw [htick] at hv
        cases List.mem_singleton.1 hv
        have hstart := OnCourse.start (d := v.document) (List.nodup_nil (α := String)) v.tick.time
        rw [← h.opened v htick] at hstart
        exact ⟨_, _, _, hstart⟩
    | working u left =>
        rw [htick] at hv
        cases List.mem_singleton.1 hv
        obtain ⟨gs, did, rest, hcourse, -⟩ := h.working v left htick
        exact ⟨gs, did, rest, hcourse⟩

/-- The tick goes on: it has run the groups that it had run, and maybe more. -/
structure GoesOn (v v' : Visit) : Prop where
  document : v'.document = v.document
  time : v'.tick.time = v.tick.time
  groups : v.tick.groups ⊆ v'.tick.groups

/-- What a step does to the ticks that have begun. -/
inductive Seen (w : Interplay) (t : Turn) (w' : Interplay) : Prop where
  | kept (h : w'.visits = w.visits)
  | began (v : Visit) (ht : t = .begin v.tick.time) (hidle : w.tick = .idle)
      (hd : v.document = w.state.document) (h : w'.visits = w.done ++ [v])
  | wentOn (vs : List Visit) (v v' : Visit) (hold : w.visits = vs ++ [v])
      (hnew : w'.visits = vs ++ [v']) (h : GoesOn v v')

theorem visits_of_idle (h : w.tick = .idle) : w.visits = w.done := by
  rw [visits, h]
  exact List.append_nil _

theorem Seen.goesOn (h : Seen w t w') {v : Visit} (hv : v ∈ w.visits) :
    ∃ v' ∈ w'.visits, GoesOn v v' := by
  have hsame : GoesOn v v := ⟨rfl, rfl, List.Subset.refl _⟩
  cases h with
  | kept h => exact ⟨v, h ▸ hv, hsame⟩
  | began new _ hidle _ h =>
      rw [visits_of_idle hidle] at hv
      rw [h]
      exact ⟨v, List.mem_append_left _ hv, hsame⟩
  | wentOn vs old new hold hnew h =>
      rw [hold] at hv
      rw [hnew]
      rcases List.mem_append.1 hv with hv | hv
      · exact ⟨v, List.mem_append_left _ hv, hsame⟩
      · rw [List.mem_singleton.1 hv]
        exact ⟨new, List.mem_append_right _ (List.mem_singleton_self _), h⟩

/-- Every run that the schedule holds is that of a tick which ran a group of the name. -/
def Recorded (w : Interplay) : Prop :=
  ∀ name time, w.state.schedule.lastRun? name = some time →
    ∃ v ∈ w.visits, v.tick.time = time ∧ name ∈ v.tick.groups.map (·.name)

theorem Recorded.later (hw : w.Recorded) (h : Seen w t w') {name : String} {time : Instant}
    (hlast : w.state.schedule.lastRun? name = some time) :
    ∃ v ∈ w'.visits, v.tick.time = time ∧ name ∈ v.tick.groups.map (·.name) := by
  obtain ⟨v, hv, htime, hmem⟩ := hw name time hlast
  obtain ⟨v', hv', hgoes⟩ := h.goesOn hv
  obtain ⟨g, hg, hname⟩ := List.mem_map.1 hmem
  exact ⟨v', hv', hgoes.time.trans htime, List.mem_map.2 ⟨g, hgoes.groups hg, hname⟩⟩

theorem eq_of_getElem?_singleton {α : Type} {x y : α} {i : Nat} (h : [x][i]? = some y) :
    i = 0 ∧ x = y := by
  cases i with
  | zero => exact ⟨rfl, Option.some.inj h⟩
  | succ i => cases h

/-! ### What the steps keep -/

variable [Yaml.Library]

theorem Turned.path (h : Turned w t w') : w'.state.path = w.state.path := by
  cases h <;> rfl

theorem Turned.follows (h : Turned w t w') (hw : w.state.schedule.Follows w.tracked.groups) :
    w'.state.schedule.Follows w'.tracked.groups := by
  obtain ⟨state, fetches, done, tick, reload⟩ := w
  cases h with
  | close => exact hw.recordRun _ _
  | load hidle =>
      cases hidle
      exact hw
  | sync => exact hw.sync _
  | replace hsynced =>
      cases hsynced
      exact hw
  | _ => exact hw

/-- A document that is held was held before, unless the step loads it. -/
theorem Turned.holds (h : Turned w t w') {d : Document} (hd : w'.Holds d) :
    w.Holds d ∨ ∃ file, t = .load file ∧ Document.loadFile file = .ok d := by
  cases h with
  | @load file _ hidle hpath hload =>
      rcases hd with hd | hd | hd
      · exact .inl (.inl hd)
      · cases hd
        exact .inr ⟨file, rfl, hload⟩
      · cases hd
  | sync hloaded =>
      rcases hd with hd | hd | hd
      · exact .inl (.inl hd)
      · cases hd
      · cases hd
        exact .inl (.inr (.inl hloaded))
  | replace hsynced =>
      rcases hd with hd | hd | hd
      · cases hd
        exact .inl (.inr (.inr hsynced))
      · cases hd
      · cases hd
  | _ => exact .inl hd

theorem Turned.namesDiffer (h : Turned w t w') (hw : ∀ d, w.Holds d → d.NamesDiffer) :
    ∀ d, w'.Holds d → d.NamesDiffer := by
  intro d hd
  rcases h.holds hd with hd | ⟨file, -, hload⟩
  · exact hw d hd
  · exact namesDiffer_of_loadFile hload

theorem Turned.coherent (h : Turned w t w') (hnames : (w.state.schedule.entries.map (·.name)).Nodup)
    (hw : w.Coherent) : w'.Coherent := by
  cases h with
  | begin time =>
      refine ⟨hw.done, ?_, ?_⟩
      · intro v hv
        cases hv
        rfl
      · intro v left hv
        cases hv
  | @readDue v htick =>
      have hdue := Schedule.nodup_due hnames v.tick.time
      have hstart := OnCourse.start (d := v.document) hdue v.tick.time
      rw [← hw.opened v htick] at hstart
      exact coherent_of_course hw.done rfl hstart (.inl rfl)
  | look source htick ho =>
      obtain ⟨gs, did, hcourse⟩ := hw.exists_course htick fun _ _ h => by cases h
      exact coherent_of_course hw.done rfl (hcourse.look ho) (.inr ⟨_, rfl⟩)
  | settle source htick =>
      obtain ⟨gs, did, rest, hcourse, hrest | ⟨_, hrest⟩⟩ := hw.working _ _ htick
      · rw [← hrest] at hcourse
        exact absurd hcourse OnCourse.not_settle
      · cases hrest
        exact coherent_of_course hw.done rfl (hcourse.settle _) (.inl rfl)
  | close source htick =>
      obtain ⟨gs, did, hcourse⟩ := hw.exists_course htick fun _ _ h => by cases h
      exact coherent_of_course hw.done rfl hcourse.close (.inl rfl)
  | @finish v source htick =>
      refine ⟨?_, ?_, ?_⟩
      · intro u hu
        rcases List.mem_append.1 hu with hu | hu
        · exact hw.done u hu
        · cases List.mem_singleton.1 hu
          exact hw.exists_course htick fun _ _ h => by cases h
      · intro u hu
        cases hu
      · intro u left hu
        cases hu
  | _ => exact ⟨hw.done, hw.opened, hw.working⟩

theorem Turned.seen (h : Turned w t w') : Seen w t w' := by
  cases h with
  | begin time htick =>
      exact .began ⟨w.state.document, .start time, []⟩ rfl htick rfl rfl
  | readDue htick =>
      refine .kept ?_
      simp [visits, TickStage.visit?, htick]
  | @look v g i r left o source htick ho =>
      refine .wentOn w.done v _ ?_ rfl ⟨rfl, rfl, List.Subset.refl _⟩
      simp [visits, TickStage.visit?, htick]
  | @settle v o left source htick =>
      obtain ⟨htime, hgroups⟩ := v.tick.settle_keeps o
      refine .wentOn w.done v _ ?_ rfl ⟨rfl, htime, hgroups ▸ List.Subset.refl _⟩
      simp [visits, TickStage.visit?, htick]
  | @close v g left source htick =>
      refine .wentOn w.done v _ ?_ rfl ⟨rfl, rfl, List.subset_append_left _ _⟩
      simp [visits, TickStage.visit?, htick]
  | finish source htick =>
      refine .kept ?_
      simp [visits, TickStage.visit?, htick]
  | _ => exact .kept rfl

theorem Turned.recorded (h : Turned w t w') (hw : w.Recorded) : w'.Recorded := by
  have hseen := h.seen
  intro name time hlast
  cases h with
  | @close v g left source htick =>
      change (w.state.schedule.recordRun g.name v.tick.time).lastRun? name = some time at hlast
      rw [Schedule.lastRun?_recordRun] at hlast
      split at hlast
      · next hran =>
        cases hlast
        refine ⟨{ v with tick := v.tick.close g }, ?_, rfl, ?_⟩
        · exact List.mem_append_right _ (List.mem_singleton_self _)
        · rw [hran.1]
          exact List.mem_map_of_mem (List.mem_append_right _ (List.mem_singleton_self g))
      · exact hw.later hseen hlast
  | @sync d hloaded =>
      change (w.state.schedule.sync d.groups).lastRun? name = some time at hlast
      rw [Schedule.lastRun?_sync] at hlast
      split at hlast
      · exact hw.later hseen hlast
      · contradiction
  | _ => exact hw.later hseen hlast

/-- The tick of that number, counted from zero, began in one of the turns, with the document that
was in force then. -/
def Begun (first : Interplay) (turns : List Turn) (k : Nat) (v : Visit) : Prop :=
  ∃ early late, turns = early ++ .begin v.tick.time :: late ∧
    (first.play early).tick = .idle ∧ (first.play early).done.length = k ∧
      (first.play early).state.document = v.document

theorem Turned.begun {first : Interplay} {turns : List Turn} (h : Turned (first.play turns) t w')
    (hw : ∀ k v, (first.play turns).visits[k]? = some v → Begun first turns k v) :
    ∀ k v, w'.visits[k]? = some v → Begun first (turns ++ [t]) k v := by
  have hlater (k : Nat) (v v' : Visit) (htime : v'.tick.time = v.tick.time)
      (hd : v'.document = v.document) (hv : Begun first turns k v) :
      Begun first (turns ++ [t]) k v' := by
    obtain ⟨early, late, heq, hidle, hcount, hdocument⟩ := hv
    refine ⟨early, late ++ [t], ?_, hidle, hcount, hdocument.trans hd.symm⟩
    rw [heq, htime, List.append_assoc, List.cons_append]
  intro k v hv
  cases h.seen with
  | kept hkept => exact hlater k v v rfl rfl (hw k v (hkept ▸ hv))
  | began new ht hidle hd hnew =>
      rw [visits_of_idle hidle] at hw
      rw [hnew, List.getElem?_append] at hv
      split at hv
      · exact hlater k v v rfl rfl (hw k v hv)
      · next hge =>
        obtain ⟨hzero, rfl⟩ := eq_of_getElem?_singleton hv
        exact ⟨turns, [], by rw [ht], hidle, by omega, hd.symm⟩
  | wentOn vs old new hold hnew hgoes =>
      rw [hold] at hw
      rw [hnew, List.getElem?_append] at hv
      split at hv
      · next hlt =>
        exact hlater k v v rfl rfl (hw k v (by rw [List.getElem?_append_left hlt, hv]))
      · next hge =>
        obtain ⟨hzero, rfl⟩ := eq_of_getElem?_singleton hv
        refine hlater k old new hgoes.time hgoes.document (hw k old ?_)
        rw [List.getElem?_append_right (Nat.le_of_not_lt hge), hzero]
        rfl

/-- A name gets an entry when the schedule is brought in line with a document that has it, and by
no other step. -/
theorem Turned.tracks (h : Turned w t w') {name : String} (hw : w.state.schedule.get? name = none)
    (hw' : (w'.state.schedule.get? name).isSome) :
    ∃ d, t = .sync ∧ w.reload = .loaded d ∧ name ∈ d.groups.map (·.name) := by
  cases h with
  | @close v g left source htick =>
      change ((w.state.schedule.recordRun g.name v.tick.time).get? name).isSome at hw'
      rw [Schedule.get?_recordRun, hw] at hw'
      contradiction
  | @sync d hloaded =>
      refine ⟨d, rfl, hloaded, ?_⟩
      change ((w.state.schedule.sync d.groups).get? name).isSome at hw'
      rw [Schedule.get?_sync, Option.isSome_map] at hw'
      obtain ⟨found, hfound⟩ := Option.isSome_iff_exists.1 hw'
      exact Schedule.name_mem_of_lastNamed hfound
  | _ =>
      rw [hw] at hw'
      contradiction

/-! ### After any steps -/

/-- What holds after the turns of all that began with the state. -/
structure Sound (s : State) (turns : List Turn) (w : Interplay) : Prop where
  path : w.state.path = s.path
  follows : w.state.schedule.Follows w.tracked.groups
  namesDiffer : s.path ≠ none → ∀ d, w.Holds d → d.NamesDiffer
  coherent : w.Coherent
  recorded : w.Recorded
  begun : ∀ k v, w.visits[k]? = some v → Begun (.start s) turns k v

variable {s : State} {turns : List Turn}

theorem sound_start (h : Started s) : Sound s [] (.start s) where
  path := rfl
  follows := started_follows h
  namesDiffer := by
    intro hpath d hd
    rcases hd with rfl | hd | hd
    · exact started_namesDiffer h hpath
    · cases hd
    · cases hd
  coherent := by
    refine ⟨fun v hv => absurd hv List.not_mem_nil, ?_, ?_⟩
    · intro v hv
      cases hv
    · intro v left hv
      cases hv
  recorded := by
    intro name time hlast
    rw [start, started_lastRun? h] at hlast
    contradiction
  begun := fun _ _ hv => by cases hv

theorem sound_play (h : Started s) (turns : List Turn) :
    Sound s turns ((start s).play turns) := by
  induction turns using List.reverseRecOn with
  | nil => exact sound_start h
  | append_singleton turns t ih =>
      rw [play_concat]
      have hturned := turned ((start s).play turns) t
      exact {
        path := hturned.path.trans ih.path
        follows := hturned.follows ih.follows
        namesDiffer := fun hpath => hturned.namesDiffer (ih.namesDiffer hpath)
        coherent := hturned.coherent ih.follows.distinct ih.coherent
        recorded := hturned.recorded ih.recorded
        begun := hturned.begun ih.begun }

/-- A name that is tracked was tracked before or was brought in by a reload meanwhile. -/
theorem tracks_of_play {first : Interplay} {turns : List Turn} {name : String}
    (h : first.state.schedule.get? name = none)
    (htracked : ((first.play turns).state.schedule.get? name).isSome) :
    ∃ mid rest d, turns = mid ++ .sync :: rest ∧ (first.play mid).reload = .loaded d ∧
      name ∈ d.groups.map (·.name) := by
  induction turns using List.reverseRecOn with
  | nil =>
      change (first.state.schedule.get? name).isSome at htracked
      rw [h] at htracked
      contradiction
  | append_singleton turns t ih =>
      cases hbefore : (first.play turns).state.schedule.get? name with
      | none =>
          rw [play_concat] at htracked
          obtain ⟨d, rfl, hloaded, hmem⟩ := (turned _ t).tracks hbefore htracked
          exact ⟨turns, [], d, rfl, hloaded, hmem⟩
      | some e =>
          obtain ⟨mid, rest, d, heq, hloaded, hmem⟩ := ih (by rw [hbefore, Option.isSome_some])
          refine ⟨mid, rest ++ [t], d, ?_, hloaded, hmem⟩
          rw [heq, List.append_assoc, List.cons_append]

end Interplay

/-- Whatever way ticks and reloads interleave, after any steps of an engine that was just made:
every tick that has begun evaluates rules of the document that was in force when it began, each of
them once at most; every last run is the time of a tick that has evaluated all rules of a group of
the name; a name that the schedule does not track is tracked again only when a reload brings a
document with the name; and unless a reload is between its two changes, the schedule tracks the
groups of the document in force, with their places and intervals. -/
theorem reloads_amid_ticks [Yaml.Library] {s : State} (h : Started s) (turns : List Turn) :
    let w := (Interplay.start s).play turns
    (∀ k v, w.visits[k]? = some v → Interplay.Begun (.start s) turns k v ∧
      (∀ o ∈ v.outcomes, ∃ g ∈ v.document.groups, ∃ source, g.rules[o.index]? = some o.rule ∧
        o = evaluateRule source v.tick.time g o.index o.rule) ∧
      (v.outcomes.map fun o => (o.group, o.index)).Nodup) ∧
    (∀ name time, w.state.schedule.lastRun? name = some time →
      ∃ v ∈ w.visits, v.tick.time = time ∧ ∃ g ∈ v.tick.groups, g.name = name ∧
        ∀ i r, g.rules[i]? = some r → ∃ o ∈ v.outcomes, o.place = (name, i, r)) ∧
    (∀ early late name, turns = early ++ late →
      ((Interplay.start s).play early).state.schedule.get? name = none →
      (w.state.schedule.get? name).isSome →
        ∃ mid rest d, late = mid ++ .sync :: rest ∧
          ((Interplay.start s).play (early ++ mid)).reload = .loaded d ∧
            name ∈ d.groups.map (·.name)) ∧
    ((∀ d, w.reload ≠ .synced d) →
      w.state.schedule.Follows w.state.document.groups ∧
      (s.path ≠ none ∨ w.state.document.NamesDiffer →
        (w.state.schedule.entries.map fun e => (e.name, e.position, e.period)).Perm
          (w.state.document.groups.zipIdx.map fun (g, i) =>
            (g.name, i, Schedule.periodOf g)))) := by
  intro w
  have hw : Interplay.Sound s turns w := Interplay.sound_play h turns
  refine ⟨?_, ?_, ?_, ?_⟩
  · intro k v hv
    obtain ⟨gs, did, left, hcourse⟩ := hw.coherent.onCourse (List.mem_of_getElem? hv)
    exact ⟨hw.begun k v hv, fun o => hcourse.rule_of_outcome, hcourse.nodup_outcomes⟩
  · intro name time hlast
    obtain ⟨v, hv, htime, hmem⟩ := hw.recorded name time hlast
    obtain ⟨g, hg, rfl⟩ := List.mem_map.1 hmem
    obtain ⟨gs, did, left, hcourse⟩ := hw.coherent.onCourse hv
    exact ⟨v, hv, htime, g, hg, rfl, fun i r => hcourse.outcome_of_closed hg⟩
  · intro early late name heq hnone htracked
    have hplay (more : List Turn) : (Interplay.start s).play (early ++ more) =
        ((Interplay.start s).play early).play more := List.foldl_append
    have hw' : w = ((Interplay.start s).play early).play late := by rw [← hplay, ← heq]
    rw [hw'] at htracked
    obtain ⟨mid, rest, d, hlate, hloaded, hmem⟩ := Interplay.tracks_of_play hnone htracked
    exact ⟨mid, rest, d, hlate, by rw [hplay, hloaded], hmem⟩
  · intro hbetween
    have htracked : w.tracked = w.state.document := by
      rw [Interplay.tracked]
      split
      · next d hsynced => exact absurd hsynced (hbetween d)
      · rfl
    have hfollows := hw.follows
    rw [htracked] at hfollows
    refine ⟨hfollows, ?_⟩
    intro hnames
    refine hfollows.perm_of_nodup ?_
    rcases hnames with hpath | hnames
    · exact hw.namesDiffer hpath _ (.inl rfl)
    · exact hnames

theorem reloads_amid_ticks_in_group :
    let d : Document := ⟨[⟨"a", .empty, none, [⟨"r", "x > 1"⟩]⟩]⟩
    let s : State := { State.ofDocument d with path := some "p" }
    let source : Source := fun _ => .ok []
    let moved := some "groups:\n- name: c\n- name: a\n  interval: 10s\n".toUTF8
    let turns : List Turn := [.begin ⟨0⟩, .readDue, .work source, .load moved, .sync, .work source,
      .work source, .replace, .work source]
    let w := (Interplay.start s).play turns
    (w.state.schedule.entries.map fun e => (e.name, e.position, e.period)).Perm
        [("c", 0, none), ("a", 1, some ⟨10000, by decide, by decide⟩)] ∧
      ∀ time, w.state.schedule.lastRun? "c" ≠ some time := by
  intro d s source moved turns w
  have hread : Reads (some
      "groups:\n- name: a\n  rules:\n  - record: r\n    expr: x > 1\n".toUTF8) d := by
    unfold Reads
    decide +kernel
  have hload := loadFile_eq_ok_iff.2 ⟨hread, by decide +kernel⟩
  have hstart : Started s := .ofFile (ofFile_eq_ok hload)
  obtain ⟨-, hruns, -, htracks⟩ := reloads_amid_ticks hstart turns
  have hbetween : w.reload = .idle := by decide +kernel
  have hdocument : w.state.document =
      ⟨[⟨"c", .empty, none, []⟩, ⟨"a", .empty, some "10s", []⟩]⟩ := by
    decide +kernel
  have hran : w.visits.flatMap (fun v => v.tick.groups.map (·.name)) = ["a"] := by decide +kernel
  constructor
  · have hperm := (htracks fun d' hsynced => by rw [hbetween] at hsynced; cases hsynced).2
    rw [hdocument] at hperm
    exact hperm (.inl (Option.some_ne_none "p"))
  · intro time hlast
    obtain ⟨v, hv, -, g, hg, hname, -⟩ := hruns "c" time hlast
    have hmem : "c" ∈ w.visits.flatMap fun v => v.tick.groups.map (·.name) :=
      List.mem_flatMap.2 ⟨v, hv, List.mem_map.2 ⟨g, hg, hname⟩⟩
    rw [hran] at hmem
    exact absurd hmem (by decide)

end AlertPolicy.Engine
