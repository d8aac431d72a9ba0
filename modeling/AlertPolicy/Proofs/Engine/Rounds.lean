import AlertPolicy.Engine.Loop
import AlertPolicy.Proofs.Engine.Work

/-!
Where a loop stands after any moves. What is done is a row of whole ticks, each from the state in
which the one before it left the engine, and a tick that is under way will have become such a tick
when its work is done, whatever happens in between.
-/

namespace AlertPolicy.Engine

open Policy Store Time

/-- The ticks are done one after the other from the first state on, and leave this state behind,
with so many fetches made and the next tick due at the deadline. -/
inductive Rounds (p : Pace) (sources : Sources) (first : State) :
    List Beat → State → Nat → Nat → Prop where
  | start : Rounds p sources first [] first 0 0
  | round {beats : List Beat} {s : State} {n deadline begun : Nat} {q : Progress}
      (h : Rounds p sources first beats s n deadline) (hbegun : deadline ≤ begun)
      (hq : q = s.tickFrom sources n (p.timeOf deadline begun)) :
      Rounds p sources first (beats ++ [⟨deadline, begun, q.tick⟩]) q.state q.fetches
        (nextDeadline p.period deadline begun)

variable {p : Pace} {sources : Sources} {first : State}

/-- The tick began when it was due or later, at the time of its deadline, and its work that is left
will make it the whole tick. -/
structure UnderWay (p : Pace) (sources : Sources) (first : State) (beats : List Beat) (s : State)
    (n deadline : Nat) (b : Beat) (tasks : List Task) : Prop where
  begun : b.due ≤ b.begun
  time : b.tick.time = p.timeOf b.due b.begun
  deadline : deadline = nextDeadline p.period b.due b.begun
  rounds : ∃ s' n', Rounds p sources first beats s' n' b.due ∧
    Progress.finish sources ⟨s, n, b.tick⟩ tasks =
      s'.tickFrom sources n' (p.timeOf b.due b.begun)

/-- What holds of a loop that was started in the first state. -/
def Loop.Sound (p : Pace) (sources : Sources) (first : State) (l : Loop) : Prop :=
  match l.phase with
  | .ticking b tasks => UnderWay p sources first l.done l.state l.fetches l.deadline b tasks
  | _ => Rounds p sources first l.done l.state l.fetches l.deadline

variable {l : Loop}

theorem time_perform (sources : Sources) (q : Progress) (task : Task) :
    (task.perform sources q).1.tick.time = q.tick.time := by
  cases task with
  | look g index r =>
      rw [Task.perform]
      rfl
  | settle o => exact (q.tick.settle_keeps o).1
  | close g => rfl

/-- What one piece of work can do to a loop. -/
inductive Worked (p : Pace) (sources : Sources) (l : Loop) : Loop → Prop where
  | ended (h : l.phase = .stopped) : Worked p sources l l
  | stop (h : l.phase = .waiting) (ht : l.triggered = true) :
      Worked p sources l { l with phase := .stopped }
  | idle (h : l.phase = .waiting) (ht : l.triggered = false) (hearly : l.clock < l.deadline) :
      Worked p sources l l
  | begin (h : l.phase = .waiting) (ht : l.triggered = false) (hdue : l.deadline ≤ l.clock) :
      Worked p sources l (l.begin p)
  | perform {b : Beat} {task : Task} {tasks : List Task} {q : Progress} {more : List Task}
      (h : l.phase = .ticking b (task :: tasks))
      (hq : task.perform sources ⟨l.state, l.fetches, b.tick⟩ = (q, more)) :
      Worked p sources l { l with
        state := q.state
        fetches := q.fetches
        phase := .ticking { b with tick := q.tick } (more ++ tasks) }
  | finish {b : Beat} (h : l.phase = .ticking b []) :
      Worked p sources l { l with done := l.done ++ [b], phase := .waiting }

theorem Loop.worked (l : Loop) : Worked p sources l (l.work p sources) := by
  obtain ⟨state, fetches, handles, handle, clock, deadline, done, phase⟩ := l
  cases phase with
  | stopped => exact .ended rfl
  | waiting =>
      simp only [Loop.work]
      split
      · next ht => exact .stop rfl ht
      · next ht =>
        rw [Bool.not_eq_true] at ht
        split
        · next hearly => exact .idle rfl ht hearly
        · next hdue => exact .begin rfl ht (Nat.le_of_not_lt hdue)
  | ticking b tasks =>
      cases tasks with
      | nil => exact .finish rfl
      | cons task tasks => exact .perform rfl rfl

theorem Worked.sound {l' : Loop} (hw : Worked p sources l l') (h : l.Sound p sources first) :
    l'.Sound p sources first := by
  cases hw with
  | ended => exact h
  | stop hphase =>
      rw [Loop.Sound, hphase] at h
      exact h
  | idle => exact h
  | begin hphase _ hdue =>
      rw [Loop.Sound, hphase] at h
      exact { begun := hdue, time := rfl, deadline := rfl, rounds := ⟨l.state, l.fetches, h, rfl⟩ }
  | @perform b task tasks q more hphase hq =>
      rw [Loop.Sound, hphase] at h
      obtain ⟨s, n, hrounds, hfinish⟩ := h.rounds
      let q₀ : Progress := ⟨l.state, l.fetches, b.tick⟩
      have htime := time_perform sources q₀ task
      have hsame := q₀.finish_perform sources task tasks
      rw [hq] at htime hsame
      exact ⟨h.begun, htime.trans h.time, h.deadline, s, n, hrounds, hsame.trans hfinish⟩
  | finish hphase =>
      rw [Loop.Sound, hphase] at h
      -- No work is left, so the tick is the whole tick already.
      obtain ⟨s, n, hrounds, hq⟩ := h.rounds
      have hnext := hrounds.round h.begun hq
      rw [← h.deadline] at hnext
      exact hnext

theorem Loop.Sound.move (h : l.Sound p sources first) (m : Move) :
    (l.move p sources m).Sound p sources first := by
  cases m with
  | pass n => exact h
  | use u => exact h
  | work => exact l.worked.sound h

theorem Loop.Sound.play (h : l.Sound p sources first) (moves : List Move) :
    (l.play p sources moves).Sound p sources first := by
  induction moves generalizing l with
  | nil => exact h
  | cons m moves ih => exact ih (h.move m)

theorem Loop.sound_start (p : Pace) (sources : Sources) (s : State) (handles : Shutdown)
    (handle : Nat) : (Loop.start s handles handle).Sound p sources s :=
  .start

/-- Every rule of the groups that ran in a tick gave a report or is counted as failed. -/
def Beat.Whole (b : Beat) : Prop :=
  b.tick.summary.groups = b.tick.groups.length ∧
    b.tick.summary.evaluated + b.tick.summary.failed = (b.tick.groups.flatMap (·.rules)).length

theorem Rounds.whole {beats : List Beat} {s : State} {n deadline : Nat}
    (h : Rounds p sources first beats s n deadline) : ∀ b ∈ beats, b.Whole := by
  induction h with
  | start => exact fun b hb => absurd hb List.not_mem_nil
  | @round beats s n deadline begun q h hbegun hq ih =>
      intro b hb
      cases List.mem_append.1 hb with
      | inl hb => exact ih b hb
      | inr hb =>
          rw [List.mem_singleton.1 hb, hq]
          constructor
          · simp [State.tickFrom_eq, Tick.extend, Tick.start]
          · rw [counts_tickFrom, State.groups_tickFrom]

theorem Loop.Sound.exists_rounds (h : l.Sound p sources first) :
    ∃ s n deadline, Rounds p sources first l.done s n deadline := by
  obtain ⟨state, fetches, handles, handle, clock, deadline, done, phase⟩ := l
  cases phase with
  | waiting => exact ⟨_, _, _, h⟩
  | stopped => exact ⟨_, _, _, h⟩
  | ticking b tasks =>
      obtain ⟨s, n, hrounds, -⟩ := h.rounds
      exact ⟨s, n, _, hrounds⟩

theorem done_started (l : Loop) : l.done <+: l.started := by
  rw [Loop.started]
  split
  · exact List.prefix_append _ _
  · exact List.prefix_rfl

/-! ### Runs on a scene -/

theorem staged_run_is_play {scene : Scene} {limit : Nat} {s : Staged}
    (h : Staged.runWithin p sources scene limit s = some l) :
    l.phase = .stopped ∧ ∃ moves, l = s.loop.play p sources moves := by
  induction limit generalizing s with
  | zero => contradiction
  | succ limit ih =>
      rw [Staged.runWithin] at h
      split at h
      · next hphase =>
        cases h
        exact ⟨hphase, [], rfl⟩
      · obtain ⟨hstopped, moves, hplay⟩ := ih h
        exact ⟨hstopped, s.next scene :: moves, hplay⟩

/-- A run that ends has stopped, and it is the play of some moves. -/
theorem run_is_play {scene : Scene} {limit : Nat} {s : State}
    (h : s.runWithin limit p sources scene = some l) :
    l.phase = .stopped ∧ ∃ moves, l = (Loop.start s .start 0).play p sources moves :=
  staged_run_is_play h

end AlertPolicy.Engine
