import AlertPolicy.Engine.Loop

/-!
The loop under signals. A listener handles them between two ticks, in the order in which they come.
A hangup loads the policy file again; any other signal ends the listener, and then the supervisor
triggers the shutdown handle that it shares with the loop.
-/

namespace AlertPolicy.Engine

open Store

inductive Signal where
  | hangup
  | interrupt
  | terminate
  | quit
  deriving DecidableEq, Repr

def Signal.name : Signal → String
  | .hangup => "SIGHUP"
  | .interrupt => "SIGINT"
  | .terminate => "SIGTERM"
  | .quit => "SIGQUIT"

/-- A signal that comes at the end of a tick. The policy file may change before it does. -/
structure Arrival where
  afterTick : Nat
  signal : Signal
  /-- What the file holds from then on, or none if there is no file any more. -/
  newContent : Option (Option ByteArray)

/-- The signals that come at the end of the tick of that number, in their order. -/
def arrivalsAt (script : List Arrival) (tick : Nat) : List Arrival :=
  script.filter (·.afterTick == tick)

/-- What a supervised loop meets. Ticks are told apart by the number of those before them. -/
structure Circumstances where
  pace : Pace
  /-- What answers the fetches of a tick. -/
  store : Nat → Source
  /-- How long a tick takes. -/
  busy : Nat → Nat

/-- The loop, the listener for signals, and what the policy file holds. -/
structure Supervised where
  loop : Loop
  /-- Whether the listener still waits for signals. -/
  listening : Bool
  file : Option ByteArray

namespace Supervised

/-- The handle of the supervisor and its clones: that of the listener and that of the loop. -/
def handles : Shutdown := (Shutdown.start.clone 0).clone 0

def start (s : State) (file : Option ByteArray) : Supervised := ⟨.start s handles 2, true, file⟩

variable [Yaml.Library]

/-- What a signal does, and what is said. A signal that stops the engine ends the listener, and
nobody hears those that come after it. -/
def receive (s : Supervised) (a : Arrival) : Supervised × List LogEvent :=
  let file := a.newContent.getD s.file
  if s.listening then
    match a.signal with
    | .hangup =>
        let state := s.loop.state
        ({ s with loop := { s.loop with state := state.afterReload file }, file := file },
          ⟨.info, "SIGHUP received, reloading policy", []⟩ :: state.reloadEvents file)
    | signal =>
        ({ s with listening := false, file := file },
          [⟨.info, "shutdown signal received", [("signal", signal.name)]⟩])
  else ({ s with file := file }, [])

def receiveAll (s : Supervised) : List Arrival → Supervised × List LogEvent
  | [] => (s, [])
  | a :: as =>
      let (s, events) := s.receive a
      let (s, more) := s.receiveAll as
      (s, events ++ more)

/-- Once the listener has ended, the supervisor triggers the shutdown; the loop, which waits for
its next tick, looks at its handle. -/
def follow (p : Pace) (sources : Sources) (s : Supervised) : Supervised :=
  if s.listening then s
  else { s with loop := s.loop.play p sources [.use (.trigger 0), .work] }

/-- A tick, and the signals that come at its end. -/
def tick (c : Circumstances) (arrivals : List Arrival) (s : Supervised) :
    Supervised × List LogEvent :=
  let before := s.loop.done.length
  let sources : Sources := fun _ => c.store before
  let loop := (s.loop.round c.pace sources).move c.pace sources (.pass (c.busy before))
  let said := (loop.done.drop before).flatMap (·.tick.events)
  let (s, heard) := { s with loop := loop }.receiveAll arrivals
  (s.follow c.pace sources, said ++ heard)

/-- Ticks until the loop has stopped, at most `limit` of them, and what is said meanwhile. -/
def runFor (c : Circumstances) (script : List Arrival) :
    Nat → Supervised → Supervised × List LogEvent
  | 0, s => (s, [])
  | limit + 1, s =>
      match s.loop.phase with
      | .stopped => (s, [])
      | _ =>
          let (s, said) := s.tick c (arrivalsAt script (s.loop.done.length + 1))
          let (s, more) := s.runFor c script limit
          (s, said ++ more)

end Supervised

/-- A run from the start, up to the last signal that comes. It ends before that if it is stopped. -/
def State.superviseUnder [Yaml.Library] (c : Circumstances) (s : State) (file : Option ByteArray)
    (script : List Arrival) : Loop × List LogEvent :=
  let limit := (script.map (·.afterTick)).foldl max 0
  let (v, events) := (Supervised.start s file).runFor c script limit
  let ended :=
    match v.loop.phase with
    | .stopped => [stoppedEvent, ⟨.info, "shutdown complete", []⟩]
    | _ => []
  (v.loop, startedEvent c.pace :: events ++ ended)

/-- A run with ticks that take no time, on a store that does not change. -/
def State.supervise [Yaml.Library] (s : State) (file : Option ByteArray) (p : Pace)
    (source : Source) (script : List Arrival) : Loop × List LogEvent :=
  s.superviseUnder ⟨p, fun _ => source, fun _ => 0⟩ file script

end AlertPolicy.Engine
