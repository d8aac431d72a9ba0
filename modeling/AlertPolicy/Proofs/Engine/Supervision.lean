import AlertPolicy.Engine.Supervision
import AlertPolicy.Proofs.Engine.History
import AlertPolicy.Proofs.Engine.Stopping
import Mathlib.Data.List.TakeWhile

/-!
A supervised loop from one wait to the next. It does a whole tick, then a reload for each hangup
that comes, and stops where it waits once another signal has come; what comes after that signal
changes nothing.
-/

namespace AlertPolicy.Engine

open Policy Store Time

variable {p : Pace} {sources : Sources} {l : Loop}

/-! ### A round without a trigger -/

/-- The work that is left of a tick finishes it, whatever the handles are. -/
theorem play_ticking {b : Beat} {tasks : List Task} (h : l.phase = .ticking b tasks) :
    let q := Progress.finish sources ⟨l.state, l.fetches, b.tick⟩ tasks
    l.play p sources (List.replicate (Task.sizes tasks + 1) .work) =
      { l with
        state := q.state
        fetches := q.fetches
        done := l.done ++ [{ b with tick := q.tick }]
        phase := .waiting } := by
  generalize hsize : Task.sizes tasks = n
  induction n generalizing l b tasks with
  | zero =>
      cases eq_nil_of_sizes hsize
      simp only [List.replicate, Loop.play, List.foldl_cons, List.foldl_nil, Loop.move, Loop.work,
        h]
      rfl
  | succ n ih =>
      cases tasks with
      | nil => cases hsize
      | cons task tasks =>
          let q := task.perform sources ⟨l.state, l.fetches, b.tick⟩
          have hrest : Task.sizes (q.2 ++ tasks) = n :=
            Nat.succ.inj ((sizes_perform_append sources _ task tasks).trans hsize)
          have hwork : l.work p sources = { l with
              state := q.1.state
              fetches := q.1.fetches
              phase := .ticking { b with tick := q.1.tick } (q.2 ++ tasks) } := by
            simp only [Loop.work, h]
            rfl
          have hfinish := Progress.finish_perform sources ⟨l.state, l.fetches, b.tick⟩ task tasks
          have hplay : l.play p sources (List.replicate (n + 1 + 1) .work) =
              (l.work p sources).play p sources (List.replicate (n + 1) .work) := rfl
          rw [hplay, hwork, ih rfl hrest, ← hfinish]

/-- What a loop that waits is after the round that does its next tick. -/
theorem round_waiting (hphase : l.phase = .waiting) (hquiet : l.triggered = false) :
    let begun := l.clock + (l.deadline - l.clock)
    let q := l.state.tickFrom sources l.fetches (p.timeOf l.deadline begun)
    l.round p sources =
      { l with
        state := q.state
        fetches := q.fetches
        clock := begun
        deadline := nextDeadline p.period l.deadline begun
        done := l.done ++ [⟨l.deadline, begun, q.tick⟩]
        phase := .waiting } := by
  intro begun q
  have hdue : ¬ begun < l.deadline := by omega
  have hbegun : l.play p sources [.pass (l.deadline - l.clock), .work] =
      { l with clock := begun }.begin p := by
    change Loop.work p sources { l with clock := begun } = _
    simp only [Loop.work, hphase]
    rw [if_neg, if_neg hdue]
    rw [Bool.not_eq_true]
    exact hquiet
  rw [Loop.round, hbegun]
  exact play_ticking (l := { l with clock := begun }.begin p) rfl

/-- A round on a store that does not change meanwhile is a tick of the engine. -/
theorem exists_beat_of_round (hphase : l.phase = .waiting) (hquiet : l.triggered = false)
    (source : Source) :
    let next := l.round p fun _ => source
    next.phase = .waiting ∧ next.handles = l.handles ∧ next.handle = l.handle ∧
      ∃ b, next.done = l.done ++ [b] ∧ b.tick = (l.state.tick source b.tick.time).1 ∧
        next.state = (l.state.tick source b.tick.time).2 := by
  intro next
  let begun := l.clock + (l.deadline - l.clock)
  let time := p.timeOf l.deadline begun
  let q := l.state.tickFrom (fun _ => source) l.fetches time
  have hnext : next = _ := round_waiting hphase hquiet
  have hq : (q.tick, q.state) = l.state.tick source time := tickFrom_const ..
  have htime : q.tick.time = time := State.time_tickFrom ..
  rw [hnext]
  refine ⟨rfl, rfl, rfl, ⟨l.deadline, begun, q.tick⟩, rfl, ?_, ?_⟩
  · change q.tick = (l.state.tick source q.tick.time).1
    rw [htime, ← hq]
  · change q.state = (l.state.tick source q.tick.time).2
    rw [htime, ← hq]

/-! ### What the signals say -/

def Arrival.isHangup (a : Arrival) : Bool := a.signal == .hangup

/-- What the file holds after the signals have come. -/
def fileAfter (file : Option ByteArray) (arrivals : List Arrival) : Option ByteArray :=
  arrivals.foldl (fun file a => a.newContent.getD file) file

/-- What the file holds at each hangup. -/
def reloads (file : Option ByteArray) : List Arrival → List (Option ByteArray)
  | [] => []
  | a :: as =>
      let file := a.newContent.getD file
      (if a.isHangup then [file] else []) ++ reloads file as

/-- The signals before the first that is no hangup. -/
def hangups (arrivals : List Arrival) : List Arrival := arrivals.takeWhile Arrival.isHangup

theorem fileAfter_append (file : Option ByteArray) (arrivals more : List Arrival) :
    fileAfter file (arrivals ++ more) = fileAfter (fileAfter file arrivals) more :=
  List.foldl_append

theorem reloads_append (file : Option ByteArray) (arrivals more : List Arrival) :
    reloads file (arrivals ++ more) =
      reloads file arrivals ++ reloads (fileAfter file arrivals) more := by
  induction arrivals generalizing file with
  | nil => rfl
  | cons a as ih =>
      rw [List.cons_append, reloads, reloads, ih, List.append_assoc]
      rfl

theorem hangups_of_all {arrivals : List Arrival} (h : arrivals.all Arrival.isHangup = true) :
    hangups arrivals = arrivals :=
  List.takeWhile_eq_self_iff.2 (List.all_eq_true.1 h)

namespace Supervised

variable {s : Supervised} {c : Circumstances} {script : List Arrival}

/-- The supervisor stops a loop that waits, by its handle, once the listener has ended. -/
theorem follow_waiting (hphase : s.loop.phase = .waiting) (hhandles : s.loop.handles = handles)
    (hhandle : s.loop.handle = 2) :
    s.follow p sources =
      if s.listening then s
      else { s with loop := { s.loop with handles := handles.trigger 0, phase := .stopped } } := by
  rw [follow]
  split
  · rfl
  · obtain ⟨⟨state, fetches, _, _, clock, deadline, done, _⟩, listening, file⟩ := s
    cases hphase
    cases hhandles
    cases hhandle
    rfl

/-- The loop waits for its next tick, and nobody has triggered its handle. -/
structure Idle (s : Supervised) : Prop where
  listening : s.listening = true
  phase : s.loop.phase = .waiting
  handles : s.loop.handles = Supervised.handles
  handle : s.loop.handle = 2

theorem follow_file (s : Supervised) (file : Option ByteArray) :
    follow p sources { s with file := file } = { s.follow p sources with file := file } := by
  simp only [follow]
  split <;> rfl

variable [Yaml.Library]

theorem receiveAll_cons (s : Supervised) (a : Arrival) (arrivals : List Arrival) :
    s.receiveAll (a :: arrivals) =
      (((s.receive a).1.receiveAll arrivals).1,
        (s.receive a).2 ++ ((s.receive a).1.receiveAll arrivals).2) :=
  rfl

/-- When the listener has ended, signals come to nothing. -/
theorem receiveAll_of_deaf (h : s.listening = false) (arrivals : List Arrival) :
    s.receiveAll arrivals = ({ s with file := fileAfter s.file arrivals }, []) := by
  induction arrivals generalizing s with
  | nil => rfl
  | cons a as ih =>
      have hreceive : s.receive a = ({ s with file := a.newContent.getD s.file }, []) := by
        rw [receive, h]
        rfl
      have hnext : (s.receive a).1.listening = false := by rw [hreceive, h]
      rw [receiveAll_cons, ih hnext, hreceive]
      rfl

theorem receive_hangup (h : s.listening = true) {a : Arrival} (ha : a.isHangup = true) :
    (s.receive a).1 =
      { s with
        loop := { s.loop with state := s.loop.state.afterReload (a.newContent.getD s.file) }
        file := a.newContent.getD s.file } := by
  obtain ⟨tick, signal, content⟩ := a
  cases signal with
  | hangup =>
      rw [receive, h]
      rfl
  | _ => contradiction

theorem receive_stop (h : s.listening = true) {a : Arrival} (ha : a.isHangup = false) :
    (s.receive a).1 = { s with listening := false, file := a.newContent.getD s.file } := by
  obtain ⟨tick, signal, content⟩ := a
  cases signal with
  | hangup => contradiction
  | _ =>
      rw [receive, h]
      rfl

/-- The signals of one moment: a reload for each hangup until one that is none ends the listener. -/
theorem receiveAll_of_listening (h : s.listening = true) (arrivals : List Arrival) :
    (s.receiveAll arrivals).1 =
      { loop := { s.loop with
          state := s.loop.state.afterAll ((reloads s.file (hangups arrivals)).map .reload) }
        listening := arrivals.all Arrival.isHangup
        file := fileAfter s.file arrivals } := by
  induction arrivals generalizing s with
  | nil =>
      obtain ⟨loop, listening, file⟩ := s
      cases h
      rfl
  | cons a as ih =>
      rw [receiveAll_cons]
      cases ha : a.isHangup with
      | true =>
          have hreceive := receive_hangup h ha
          have hnext : (s.receive a).1.listening = true := by rw [hreceive, h]
          rw [ih hnext, hreceive]
          simp only [hangups, List.takeWhile_cons, ha, if_true, reloads, List.singleton_append,
            List.map_cons, List.all_cons, Bool.true_and]
          rfl
      | false =>
          have hreceive := receive_stop h ha
          have hnext : (s.receive a).1.listening = false := by rw [hreceive]
          rw [receiveAll_of_deaf hnext, hreceive]
          simp only [hangups, List.takeWhile_cons, ha, List.all_cons, Bool.false_and]
          rfl

theorem receiveAll_append (s : Supervised) (arrivals more : List Arrival) :
    s.receiveAll (arrivals ++ more) =
      (((s.receiveAll arrivals).1.receiveAll more).1,
        (s.receiveAll arrivals).2 ++ ((s.receiveAll arrivals).1.receiveAll more).2) := by
  induction arrivals generalizing s with
  | nil => rfl
  | cons a as ih => simp [receiveAll_cons, ih]

/-- What a tick and the signals at its end come to, in a loop that waits for it. -/
structure Ticked (c : Circumstances) (arrivals : List Arrival) (s next : Supervised) (b : Beat) :
    Prop where
  done : next.loop.done = s.loop.done ++ [b]
  beat : b.tick = (s.loop.state.tick (c.store s.loop.done.length) b.tick.time).1
  state : next.loop.state = (s.loop.state.tick (c.store s.loop.done.length) b.tick.time).2.afterAll
    ((reloads s.file (hangups arrivals)).map .reload)
  holds : next.file = fileAfter s.file arrivals
  listening : next.listening = arrivals.all Arrival.isHangup
  idle : next.listening = true → next.Idle
  stopped : next.listening = false → next.loop.phase = .stopped

theorem exists_ticked (h : s.Idle) (c : Circumstances) (arrivals : List Arrival) :
    ∃ b, Ticked c arrivals s (s.tick c arrivals).1 b := by
  have hquiet : s.loop.triggered = false := by
    rw [Loop.triggered, h.handles, h.handle]
    rfl
  let store : Sources := fun _ => c.store s.loop.done.length
  let loop := (s.loop.round c.pace store).move c.pace store (.pass (c.busy s.loop.done.length))
  obtain ⟨hphase, hhandles, hhandle, b, hdone, hbeat, hstate⟩ :=
    exists_beat_of_round (p := c.pace) h.phase hquiet (c.store s.loop.done.length)
  have htick : (s.tick c arrivals).1 =
      (receiveAll { s with loop := loop } arrivals).1.follow c.pace store := rfl
  have hheard := receiveAll_of_listening (s := { s with loop := loop }) h.listening arrivals
  rw [htick, hheard,
    follow_waiting hphase (hhandles.trans h.handles) (hhandle.trans h.handle)]
  have hafter : loop.state.afterAll ((reloads s.file (hangups arrivals)).map .reload) =
      (s.loop.state.tick (c.store s.loop.done.length) b.tick.time).2.afterAll
        ((reloads s.file (hangups arrivals)).map .reload) := by
    rw [← hstate]
    rfl
  refine ⟨b, ?_⟩
  split
  · next hall =>
    exact {
      done := hdone
      beat := hbeat
      state := hafter
      holds := rfl
      listening := rfl
      idle := fun _ => ⟨hall, hphase, hhandles.trans h.handles, hhandle.trans h.handle⟩
      stopped := fun hdeaf => absurd hall (Bool.eq_false_iff.1 hdeaf) }
  · next hnot =>
    exact {
      done := hdone
      beat := hbeat
      state := hafter
      holds := rfl
      listening := rfl
      idle := fun hall => absurd hall hnot
      stopped := fun _ => rfl }

/-- Nothing that comes after a signal that stops the engine changes the loop or what is said. -/
theorem tick_of_stop (h : s.listening = true) {stop : Arrival} (hstop : stop.isHangup = false)
    (early late : List Arrival) :
    (s.tick c (early ++ stop :: late)).1.loop = (s.tick c (early ++ [stop])).1.loop ∧
      (s.tick c (early ++ stop :: late)).2 = (s.tick c (early ++ [stop])).2 := by
  let store : Sources := fun _ => c.store s.loop.done.length
  let loop := (s.loop.round c.pace store).move c.pace store (.pass (c.busy s.loop.done.length))
  let heard := receiveAll { s with loop := loop } (early ++ [stop])
  have hdeaf : heard.1.listening = false := by
    have hheard := receiveAll_of_listening (s := { s with loop := loop }) h (early ++ [stop])
    rw [hheard]
    simp [hstop]
  have hall : receiveAll { s with loop := loop } (early ++ stop :: late) =
      ({ heard.1 with file := fileAfter heard.1.file late }, heard.2) := by
    have hsplit : early ++ stop :: late = (early ++ [stop]) ++ late := by simp
    rw [hsplit, receiveAll_append, receiveAll_of_deaf hdeaf, List.append_nil]
  constructor
  · change ((receiveAll { s with loop := loop } (early ++ stop :: late)).1.follow _ _).loop = _
    rw [hall, follow_file]
    rfl
  · change _ ++ (receiveAll { s with loop := loop } (early ++ stop :: late)).2 = _
    rw [hall]
    rfl

theorem runFor_stopped (h : s.loop.phase = .stopped) (limit : Nat) :
    s.runFor c script limit = (s, []) := by
  cases limit with
  | zero => rfl
  | succ limit => rw [runFor, h]

theorem runFor_idle (h : s.Idle) (limit : Nat) :
    s.runFor c script (limit + 1) =
      let t := s.tick c (arrivalsAt script (s.loop.done.length + 1))
      ((t.1.runFor c script limit).1, t.2 ++ (t.1.runFor c script limit).2) := by
  rw [runFor, h.phase]

theorem runFor_add (s : Supervised) (m n : Nat) :
    s.runFor c script (m + n) =
      let t := s.runFor c script m
      ((t.1.runFor c script n).1, t.2 ++ (t.1.runFor c script n).2) := by
  induction m generalizing s with
  | zero =>
      rw [Nat.zero_add]
      rfl
  | succ m ih =>
      rw [Nat.succ_add]
      simp only [runFor]
      cases hphase : s.loop.phase with
      | stopped => simp [runFor_stopped hphase]
      | _ => simp [ih]

end Supervised

end AlertPolicy.Engine
