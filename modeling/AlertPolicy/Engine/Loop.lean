import AlertPolicy.Engine.Work
import AlertPolicy.Shutdown

/-!
The tick loop, one move after the other: time passes, somebody uses a shutdown handle, or the loop
does one piece of work. A tick is due at a deadline and is given the time of that, not the time at
which it begins. The loop looks at its handle when it waits for the next tick, and only then.
Moments are counted in nanoseconds from the start of the loop.
-/

namespace AlertPolicy.Engine

open Policy Store Time

/-- What the loop runs by: the period, the time of its start, and the time that the clock on the
wall shows at each moment. -/
structure Pace where
  period : Nat
  positive : 0 < period
  origin : Instant
  wall : Nat → Instant

namespace Pace

def ofDuration (d : Duration) (origin : Instant) : Pace :=
  ⟨d.milliseconds * 1000000, Nat.mul_pos d.positive (by decide), origin, origin.add⟩

/-- The time of the tick that is due at the deadline; only where there is no date for that, it is
the time at which the tick begins. -/
def timeOf (p : Pace) (deadline moment : Nat) : Instant :=
  (p.origin.add? deadline).getD (p.wall moment)

end Pace

/-- The deadline after one that was reached at the given moment: a period later, counted from that
moment if it came more than five milliseconds late. -/
def nextDeadline (period deadline reached : Nat) : Nat :=
  (if deadline + 5000000 < reached then reached else deadline) + period

/-- A tick with the moments at which it was due and began. -/
structure Beat where
  due : Nat
  begun : Nat
  tick : Tick

inductive Phase where
  | waiting
  | ticking (b : Beat) (left : List Task)
  | stopped

structure Loop where
  state : State
  fetches : Nat
  /-- All shutdown handles there are, and the one of the loop. -/
  handles : Shutdown
  handle : Nat
  clock : Nat
  deadline : Nat
  /-- The ticks that are done, in order. -/
  done : List Beat
  phase : Phase

/-- What can happen next, to the loop or around it. -/
inductive Move where
  | pass (nanoseconds : Nat)
  | use (u : Shutdown.Use)
  | work

namespace Loop

def start (s : State) (handles : Shutdown) (handle : Nat) : Loop :=
  ⟨s, 0, handles, handle, 0, 0, [], .waiting⟩

def triggered (l : Loop) : Bool := l.handles.isTriggered l.handle

/-- The ticks that have started, in order; at most the last of them is not done. -/
def started (l : Loop) : List Beat :=
  match l.phase with
  | .ticking b _ => l.done ++ [b]
  | _ => l.done

def begin (p : Pace) (l : Loop) : Loop :=
  let time := p.timeOf l.deadline l.clock
  { l with
    deadline := nextDeadline p.period l.deadline l.clock
    phase := .ticking ⟨l.deadline, l.clock, .start time⟩ (l.state.tasks time) }

/-- One piece of work. A loop that waits looks at its handle first, so that a trigger wins over a
tick that is due at the same moment. -/
def work (p : Pace) (sources : Sources) (l : Loop) : Loop :=
  match l.phase with
  | .stopped => l
  | .waiting =>
      if l.triggered then { l with phase := .stopped }
      else if l.clock < l.deadline then l
      else l.begin p
  | .ticking b [] => { l with done := l.done ++ [b], phase := .waiting }
  | .ticking b (task :: tasks) =>
      let (q, more) := task.perform sources ⟨l.state, l.fetches, b.tick⟩
      { l with
        state := q.state
        fetches := q.fetches
        phase := .ticking { b with tick := q.tick } (more ++ tasks) }

def move (p : Pace) (sources : Sources) (l : Loop) : Move → Loop
  | .pass n => { l with clock := l.clock + n }
  | .use u => { l with handles := l.handles.use u }
  | .work => l.work p sources

def play (p : Pace) (sources : Sources) (l : Loop) (moves : List Move) : Loop :=
  moves.foldl (move p sources) l

/-- How often the loop must work before the tick that is running is done. -/
def left (l : Loop) : Nat :=
  match l.phase with
  | .ticking _ tasks => Task.sizes tasks + 1
  | _ => 0

/-- Waits for the next tick and does it without a pause. -/
def round (p : Pace) (sources : Sources) (l : Loop) : Loop :=
  let begun := l.play p sources [.pass (l.deadline - l.clock), .work]
  begun.play p sources (List.replicate begun.left .work)

end Loop

/-! ### Runs on a scene -/

/-- When the shutdown is triggered: at the end of a tick, in a fetch, both counted from one, or at
a moment. The end of tick zero is the start. -/
inductive Trigger where
  | afterTick (n : Nat)
  | inFetch (n : Nat)
  | atMoment (t : Nat)
  deriving DecidableEq, Repr

namespace Trigger

def hasCome (l : Loop) : Trigger → Bool
  | afterTick n => n ≤ l.done.length
  | inFetch n => n ≤ l.fetches
  | atMoment t => t ≤ l.clock

def moment? : Trigger → Option Nat
  | atMoment t => some t
  | _ => none

end Trigger

/-- What happens around a loop: how long each fetch takes, and when the shutdown is triggered. -/
structure Scene where
  delay : Nat
  triggers : List Trigger

/-- A loop with the moment at which the last fetch is answered. -/
structure Staged where
  loop : Loop
  answered : Nat

namespace Staged

/-- The moment before which the loop has nothing to do. -/
def idleUntil (s : Staged) : Nat :=
  match s.loop.phase with
  | .waiting => if s.loop.triggered then s.loop.clock else s.loop.deadline
  | _ => s.answered

/-- The next move: a trigger that has come, time up to the next thing that happens, or work. -/
def next (scene : Scene) (s : Staged) : Move :=
  let now := s.loop.clock
  if scene.triggers.any (·.hasCome s.loop) && !s.loop.triggered then .use (.trigger s.loop.handle)
  else if now < s.idleUntil then
    let moments := scene.triggers.filterMap fun t => t.moment?.filter (now < ·)
    .pass ((s.idleUntil :: moments).min?.getD now - now)
  else .work

def step (p : Pace) (sources : Sources) (scene : Scene) (s : Staged) : Staged :=
  let loop := s.loop.move p sources (s.next scene)
  ⟨loop, if loop.fetches = s.loop.fetches then s.answered else loop.clock + scene.delay⟩

/-- Goes on until the loop has stopped; nothing if it has not after so many moves. -/
def runWithin (p : Pace) (sources : Sources) (scene : Scene) : Nat → Staged → Option Loop
  | 0, _ => none
  | moves + 1, s =>
      match s.loop.phase with
      | .stopped => some s.loop
      | _ => runWithin p sources scene moves (s.step p sources scene)

end Staged

/-- A run from the start until one of the triggers stops it, if that takes less than so many
moves. -/
def State.runWithin (moves : Nat) (s : State) (p : Pace) (sources : Sources) (scene : Scene) :
    Option Loop :=
  Staged.runWithin p sources scene moves ⟨.start s .start 0, 0⟩

def startedEvent (p : Pace) : LogEvent :=
  ⟨.info, "policy engine started", [("tick_ms", toString (p.period / 1000000 % UInt64.size))]⟩

def stoppedEvent : LogEvent := ⟨.info, "policy engine stopped", []⟩

def runEvents (p : Pace) (l : Loop) : List LogEvent :=
  startedEvent p :: l.done.flatMap (·.tick.events) ++ [stoppedEvent]

end AlertPolicy.Engine
