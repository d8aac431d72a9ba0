import AlertPolicy.Proofs.Engine.Rounds

/-!
What a shutdown leaves undone. A loop keeps step with one whose handle nobody triggers until it
stops, and it stops between two ticks only; so it has done the first ticks of the other, whole.
-/

namespace AlertPolicy.Engine

open Policy Store Time

variable {p : Pace} {sources : Sources} {s : State} {l : Loop}

def Move.isUse : Move → Bool
  | .use _ => true
  | _ => false

def Move.isWork : Move → Bool
  | .work => true
  | _ => false

/-- The same moves with no handle used, from the same state on. -/
def undisturbed (p : Pace) (sources : Sources) (s : State) (moves : List Move) : Loop :=
  (Loop.start s .start 0).play p sources (moves.filter fun m => !m.isUse)

/-- The two loops differ in nothing but the handles. -/
structure Loop.Same (l u : Loop) : Prop where
  state : l.state = u.state
  fetches : l.fetches = u.fetches
  clock : l.clock = u.clock
  deadline : l.deadline = u.deadline
  done : l.done = u.done
  phase : l.phase = u.phase

theorem Worked.triggered {l' : Loop} (h : Worked p sources l l') : l'.triggered = l.triggered := by
  cases h <;> rfl

theorem triggered_move (m : Move) (h : l.triggered = true) :
    (l.move p sources m).triggered = true := by
  cases m with
  | pass n => exact h
  | use u => exact Shutdown.isTriggered_use u h
  | work => exact l.worked.triggered.trans h

/-! ### After the trigger -/

theorem Worked.length_started {l' : Loop} (h : Worked p sources l l') (ht : l.triggered = true) :
    l'.started.length = l.started.length := by
  cases h with
  | ended => rfl
  | stop hphase => simp [Loop.started, hphase]
  | idle => rfl
  | begin _ hquiet =>
      rw [ht] at hquiet
      contradiction
  | perform hphase => simp [Loop.started, hphase]
  | finish hphase => simp [Loop.started, hphase]

/-- No tick starts once the trigger has happened. -/
theorem length_started_move (m : Move) (h : l.triggered = true) :
    (l.move p sources m).started.length = l.started.length := by
  cases m with
  | pass n => rfl
  | use u => rfl
  | work => exact l.worked.length_started h

theorem length_started_play (moves : List Move) (h : l.triggered = true) :
    (l.play p sources moves).started.length = l.started.length := by
  induction moves generalizing l with
  | nil => rfl
  | cons m moves ih => exact (ih (triggered_move m h)).trans (length_started_move m h)

theorem eq_nil_of_sizes {tasks : List Task} (h : Task.sizes tasks = 0) : tasks = [] := by
  cases tasks with
  | nil => rfl
  | cons task tasks => cases task <;> simp [Task.sizes, Task.size] at h

theorem sizes_append (tasks tasks' : List Task) :
    Task.sizes (tasks ++ tasks') = Task.sizes tasks + Task.sizes tasks' := by
  induction tasks with
  | nil => simp [Task.sizes]
  | cons task tasks ih => simp [Task.sizes, ih, Nat.add_assoc]

theorem sizes_perform (sources : Sources) (q : Progress) (task : Task) :
    Task.sizes (task.perform sources q).2 + 1 = task.size := by
  cases task with
  | look g index r => rfl
  | settle o => rfl
  | close g => rfl

/-- Each piece of work leaves one less to do. -/
theorem sizes_perform_append (sources : Sources) (q : Progress) (task : Task)
    (tasks : List Task) :
    Task.sizes ((task.perform sources q).2 ++ tasks) + 1 = Task.sizes (task :: tasks) := by
  rw [sizes_append, Task.sizes, ← sizes_perform sources q task]
  omega

/-- A piece of work of a loop that is to stop stops it or leaves it less to do. -/
theorem Worked.stops_or_goes_on {l' : Loop} (h : Worked p sources l l') (ht : l.triggered = true) :
    l'.phase = .stopped ∨ l'.left + 1 = l.left := by
  cases h with
  | ended hphase => exact .inl hphase
  | stop => exact .inl rfl
  | idle _ hquiet =>
      rw [ht] at hquiet
      contradiction
  | begin _ hquiet =>
      rw [ht] at hquiet
      contradiction
  | @perform b task tasks q more hphase hq =>
      have hsize : Task.sizes more + 1 = task.size := by
        rw [← sizes_perform sources ⟨l.state, l.fetches, b.tick⟩ task, hq]
      simp only [Loop.left, hphase, sizes_append, Task.sizes]
      omega
  | finish hphase => simp [Loop.left, hphase, Task.sizes]

theorem stopped_play (moves : List Move) (h : l.phase = .stopped) :
    (l.play p sources moves).phase = .stopped := by
  induction moves generalizing l with
  | nil => exact h
  | cons m moves ih =>
      apply ih
      cases m with
      | pass n => exact h
      | use u => exact h
      | work =>
          rw [Loop.move, Loop.work, h]
          exact h

/-- A loop whose handle is triggered stops as soon as the tick that is running is done. -/
theorem stops {moves : List Move} (h : l.triggered = true)
    (hwork : l.left < moves.countP Move.isWork) :
    (l.play p sources moves).phase = .stopped := by
  induction moves generalizing l with
  | nil => exact absurd hwork (Nat.not_lt_zero _)
  | cons m moves ih =>
      cases m with
      | pass n => exact ih h hwork
      | use u => exact ih (triggered_move (.use u) h) hwork
      | work =>
          rw [List.countP_cons_of_pos rfl] at hwork
          cases (l.worked (p := p)).stops_or_goes_on h with
          | inl hstopped => exact stopped_play moves hstopped
          | inr hleft =>
              refine ih (triggered_move .work h) ?_
              change (l.work p sources).left < _
              omega

/-! ### In step -/

theorem Worked.done {l' : Loop} (h : Worked p sources l l') : l.done <+: l'.done := by
  cases h with
  | finish => exact List.prefix_append _ _
  | _ => exact List.prefix_rfl

theorem done_move (l : Loop) (m : Move) : l.done <+: (l.move p sources m).done := by
  cases m with
  | pass n => exact List.prefix_rfl
  | use u => exact List.prefix_rfl
  | work => exact l.worked.done

theorem done_play (l : Loop) (moves : List Move) : l.done <+: (l.play p sources moves).done := by
  induction moves generalizing l with
  | nil => exact List.prefix_rfl
  | cons m moves ih => exact (done_move l m).trans (ih _)

/-- The handle matters to a loop that waits, and to no other. -/
theorem Loop.Same.work {l u : Loop} (h : l.Same u) (hl : l.phase = .waiting → l.triggered = false)
    (hu : u.triggered = false) : (l.work p sources).Same (u.work p sources) := by
  obtain ⟨state, fetches, handles, handle, clock, deadline, done, phase⟩ := l
  obtain ⟨_, _, handles', handle', _, _, _, _⟩ := u
  obtain ⟨rfl, rfl, rfl, rfl, rfl, rfl⟩ := h
  cases phase with
  | stopped => exact ⟨rfl, rfl, rfl, rfl, rfl, rfl⟩
  | waiting =>
      simp only [Loop.work, hl, hu, Bool.false_eq_true, if_false]
      split <;> exact ⟨rfl, rfl, rfl, rfl, rfl, rfl⟩
  | ticking b tasks => cases tasks <;> exact ⟨rfl, rfl, rfl, rfl, rfl, rfl⟩

theorem Worked.goes_on {l' : Loop} (h : Worked p sources l l') (hphase : l.phase ≠ .stopped)
    (hl : l.phase = .waiting → l.triggered = false) : l'.phase ≠ .stopped := by
  cases h with
  | ended => exact hphase
  | stop hwait ht =>
      rw [hl hwait] at ht
      contradiction
  | idle => exact hphase
  | begin => exact Phase.noConfusion
  | perform => exact Phase.noConfusion
  | finish => exact Phase.noConfusion

theorem undisturbed_concat (moves : List Move) (m : Move) :
    undisturbed p sources s (moves ++ [m]) =
      if m.isUse then undisturbed p sources s moves
      else (undisturbed p sources s moves).move p sources m := by
  rw [undisturbed, List.filter_append, Loop.play, List.foldl_append]
  cases m <;> rfl

theorem triggered_play {moves : List Move} (h : ∀ m ∈ moves, m.isUse = false) (l : Loop) :
    (l.play p sources moves).triggered = l.triggered := by
  induction moves generalizing l with
  | nil => rfl
  | cons m moves ih =>
      have hm := h m List.mem_cons_self
      have hrest := ih fun x hx => h x (List.mem_cons_of_mem _ hx)
      refine (hrest _).trans ?_
      cases m with
      | pass n => rfl
      | use u => contradiction
      | work => exact l.worked.triggered

theorem triggered_undisturbed (moves : List Move) :
    (undisturbed p sources s moves).triggered = false := by
  refine triggered_play ?_ _
  intro m hm
  simpa using (List.mem_filter.1 hm).2

/-- A loop that has not stopped is in step with the undisturbed one. One that has stopped is where
that one was when it waited, after some of the moves. -/
inductive InStep (p : Pace) (sources : Sources) (s : State) (l : Loop) (moves : List Move) :
    Prop where
  | running (hphase : l.phase ≠ .stopped) (h : l.Same (undisturbed p sources s moves))
  | stopped (hphase : l.phase = .stopped) (early late : List Move) (heq : moves = early ++ late)
      (hwaiting : (undisturbed p sources s early).phase = .waiting)
      (hdone : l.done = (undisturbed p sources s early).done)
      (hstate : l.state = (undisturbed p sources s early).state)
      (hfetches : l.fetches = (undisturbed p sources s early).fetches)

variable {past : List Move}

theorem InStep.work (hphase : l.phase ≠ .stopped) (h : l.Same (undisturbed p sources s past)) :
    InStep p sources s (l.work p sources) (past ++ [.work]) := by
  have hconcat : undisturbed p sources s (past ++ [.work]) =
      (undisturbed p sources s past).work p sources := undisturbed_concat past .work
  have hu : (undisturbed p sources s past).triggered = false := triggered_undisturbed past
  by_cases hstop : l.phase = .waiting ∧ l.triggered = true
  · have hwork : l.work p sources = { l with phase := .stopped } := by
      simp only [Loop.work, hstop.1, hstop.2, if_true]
    rw [hwork]
    exact .stopped rfl past [.work] rfl (h.phase.symm.trans hstop.1) h.done h.state h.fetches
  · have hl (hwait : l.phase = .waiting) : l.triggered = false := by
      simpa [hwait] using hstop
    refine .running (l.worked.goes_on hphase hl) ?_
    rw [hconcat]
    exact h.work hl hu

theorem InStep.move (h : InStep p sources s l past) (m : Move) :
    InStep p sources s (l.move p sources m) (past ++ [m]) := by
  cases h with
  | running hphase h =>
      cases m with
      | pass n =>
          refine .running hphase ?_
          rw [undisturbed_concat]
          exact { h with clock := congrArg (· + n) h.clock }
      | use u =>
          refine .running hphase ?_
          rw [undisturbed_concat]
          exact { h with }
      | work => exact InStep.work hphase h
  | stopped hphase early late heq hwaiting hdone hstate hfetches =>
      have hkept : (l.move p sources m).phase = .stopped ∧ (l.move p sources m).done = l.done ∧
          (l.move p sources m).state = l.state ∧ (l.move p sources m).fetches = l.fetches := by
        cases m with
        | pass n => exact ⟨hphase, rfl, rfl, rfl⟩
        | use u => exact ⟨hphase, rfl, rfl, rfl⟩
        | work =>
            rw [Loop.move, Loop.work, hphase]
            exact ⟨hphase, rfl, rfl, rfl⟩
      refine .stopped hkept.1 early (late ++ [m]) ?_ hwaiting (hkept.2.1.trans hdone)
        (hkept.2.2.1.trans hstate) (hkept.2.2.2.trans hfetches)
      rw [heq, List.append_assoc]

theorem InStep.play (h : InStep p sources s l past) (moves : List Move) :
    InStep p sources s (l.play p sources moves) (past ++ moves) := by
  induction moves generalizing l past with
  | nil =>
      rw [List.append_nil]
      exact h
  | cons m moves ih =>
      have hnext := ih (h.move m)
      rw [List.append_assoc] at hnext
      exact hnext

/-- Without a trigger the loop would have started the same ticks, and maybe more. -/
theorem InStep.started {moves : List Move} (h : InStep p sources s l moves) :
    l.started <+: (undisturbed p sources s moves).started := by
  cases h with
  | running hphase h =>
      have hstarted : (undisturbed p sources s moves).started = l.started := by
        rw [Loop.started, Loop.started, h.phase, h.done]
      exact ⟨[], by rw [List.append_nil, hstarted]⟩
  | stopped hphase early late heq hwaiting hdone hstate hfetches =>
      have hplay : undisturbed p sources s moves =
          (undisturbed p sources s early).play p sources (late.filter fun m => !m.isUse) := by
        rw [heq, undisturbed, List.filter_append]
        exact List.foldl_append
      rw [Loop.started, hphase, hdone, hplay]
      exact (done_play _ _).trans (done_started _)

/-- Once its handle is triggered, a loop starts no tick more. It stops as soon as the tick that is
running is done, and has then done, whole and with all that they changed in the engine, the first
ticks of the run without a trigger: those that had started by then. -/
theorem shutdown_cuts_between_ticks {handles : Shutdown} {handle : Nat} {before : List Move}
    (h : ((Loop.start s handles handle).play p sources before).triggered = true)
    (after : List Move) :
    let t := (Loop.start s handles handle).play p sources before
    let l := t.play p sources after
    l.started.length = t.started.length ∧
    l.started = (undisturbed p sources s (before ++ after)).started.take t.started.length ∧
    (t.left < after.countP Move.isWork → l.phase = .stopped) ∧
    (∀ b ∈ l.done, b.Whole) ∧
    (l.phase = .stopped → l.done = l.started ∧
      Rounds p sources s l.done l.state l.fetches l.deadline ∧
      ∃ early late, before ++ after = early ++ late ∧
        (undisturbed p sources s early).phase = .waiting ∧
        l.done = (undisturbed p sources s early).done ∧
        l.state = (undisturbed p sources s early).state ∧
        l.fetches = (undisturbed p sources s early).fetches) := by
  intro t l
  have hplay : l = (Loop.start s handles handle).play p sources (before ++ after) :=
    List.foldl_append.symm
  have hstep : InStep p sources s l (before ++ after) := by
    rw [hplay]
    have hstart : InStep p sources s (Loop.start s handles handle) [] :=
      .running Phase.noConfusion ⟨rfl, rfl, rfl, rfl, rfl, rfl⟩
    exact hstart.play (before ++ after)
  have hsound : l.Sound p sources s := by
    rw [hplay]
    exact (Loop.sound_start p sources s handles handle).play _
  have hlength : l.started.length = t.started.length := length_started_play after h
  obtain ⟨_, _, _, hrounds⟩ := hsound.exists_rounds
  refine ⟨hlength, ?_, stops h, hrounds.whole, ?_⟩
  · rw [← hlength]
    exact List.prefix_iff_eq_take.1 hstep.started
  · intro hphase
    refine ⟨?_, ?_, ?_⟩
    · rw [Loop.started, hphase]
    · rw [Loop.Sound, hphase] at hsound
      exact hsound
    · cases hstep with
      | running hrunning => exact absurd hphase hrunning
      | stopped _ early late heq hwaiting hdone hstate hfetches =>
          exact ⟨early, late, heq, hwaiting, hdone, hstate, hfetches⟩

theorem shutdown_cuts_between_ticks_in_fetch :
    let d : Document := ⟨[⟨"a", .empty, none, [⟨"r", "x > 1"⟩, ⟨"s", "y > 1"⟩]⟩]⟩
    let start := Loop.start (State.ofDocument d) .start 0
    let pace := Pace.ofDuration .oneSecond ⟨0⟩
    let before : List Move := [.work, .work, .use (.trigger 0)]
    let t := start.play pace (fun _ _ => .ok []) before
    let l := t.play pace (fun _ _ => .ok []) (List.replicate 6 .work)
    t.fetches = 1 ∧ t.triggered = true ∧ l.phase = .stopped ∧ l.done.length = 1 ∧
      l.fetches = 2 := by
  intro d start pace before t l
  have htriggered : t.triggered = true := by decide +kernel
  obtain ⟨hlength, -, hstops, -, hdone⟩ :=
    shutdown_cuts_between_ticks htriggered (List.replicate 6 .work)
  have hphase : l.phase = .stopped := hstops (by decide +kernel)
  have hone : t.started.length = 1 := by decide +kernel
  refine ⟨by decide +kernel, htriggered, hphase, ?_, by decide +kernel⟩
  rw [(hdone hphase).1]
  exact hlength.trans hone

end AlertPolicy.Engine
