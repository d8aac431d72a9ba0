import AlertPolicy.Engine.Work

/-!
Ticks and reloads that go on at the same time. A tick reads the document and then the names that are
due, and does its work after that; a reload reads the file, brings the schedule in line and then
replaces the document. Each of these is one step on what they share, and the steps of the ticks, one
tick after the other, may come between those of the reloads, one reload after the other, in any way.
-/

namespace AlertPolicy.Engine

open Policy Store Time

/-- A tick, the document that it read when it began, and what has come of its rules so far. -/
structure Visit where
  document : Document
  tick : Tick
  outcomes : List Outcome

/-- Where the tick stands between two of its steps. -/
inductive TickStage where
  | idle
  | opened (v : Visit)
  | working (v : Visit) (left : List Task)

/-- The tick that is under way. -/
def TickStage.visit? : TickStage → Option Visit
  | .idle => none
  | .opened v => some v
  | .working v _ => some v

/-- Where the reload stands between two of its steps. -/
inductive ReloadStage where
  | idle
  | loaded (d : Document)
  | synced (d : Document)
  deriving DecidableEq

/-- The state that ticks and reloads share, with where both stand. -/
structure Interplay where
  state : State
  /-- The fetches made so far. -/
  fetches : Nat
  /-- The ticks that are done, in order. -/
  done : List Visit
  tick : TickStage
  reload : ReloadStage

/-- One step. The work of a tick is cut where a rule waits for its samples, and a tick ends when no
work is left. -/
inductive Turn where
  | begin (time : Instant)
  | readDue
  | work (source : Source)
  | load (file : Option ByteArray)
  | sync
  | replace

/-- What comes of the rule that a piece of work looks at. -/
def Task.outcomes (source : Source) (time : Instant) : Task → List Outcome
  | .look g index r => [evaluateRule source time g index r]
  | _ => []

namespace Interplay

def start (s : State) : Interplay := ⟨s, 0, [], .idle, .idle⟩

/-- The first step of a tick. -/
def begin (w : Interplay) (time : Instant) : Interplay :=
  match w.tick with
  | .idle => { w with tick := .opened ⟨w.state.document, .start time, []⟩ }
  | _ => w

/-- The groups that the tick is going to run. Names that are due by now, but that the document it
has read does not have, are passed over. -/
def readDue (w : Interplay) : Interplay :=
  match w.tick with
  | .opened v =>
      let groups := (w.state.schedule.due v.tick.time).filterMap v.document.group?
      { w with tick := .working v (groups.flatMap groupTasks) }
  | _ => w

def work (w : Interplay) (source : Source) : Interplay :=
  match w.tick with
  | .working v [] => { w with done := w.done ++ [v], tick := .idle }
  | .working v (task :: left) =>
      let (q, more) := task.perform (fun _ => source) ⟨w.state, w.fetches, v.tick⟩
      let outcomes := v.outcomes ++ task.outcomes source v.tick.time
      { w with
        state := q.state
        fetches := q.fetches
        tick := .working { v with tick := q.tick, outcomes := outcomes } (more ++ left) }
  | _ => w

variable [Yaml.Library]

/-- The first step of a reload, which is also the last if there is nothing to load or the file does
not load. -/
def load (w : Interplay) (file : Option ByteArray) : Interplay :=
  match w.reload, w.state.path, Document.loadFile file with
  | .idle, some _, .ok d => { w with reload := .loaded d }
  | _, _, _ => w

def sync (w : Interplay) : Interplay :=
  match w.reload with
  | .loaded d =>
      { w with
        state := { w.state with schedule := w.state.schedule.sync d.groups }
        reload := .synced d }
  | _ => w

def replace (w : Interplay) : Interplay :=
  match w.reload with
  | .synced d => { w with state := { w.state with document := d }, reload := .idle }
  | _ => w

/-- Takes a step; one that is not the next of its tick or reload does nothing. -/
def turn (w : Interplay) : Turn → Interplay
  | .begin time => w.begin time
  | .readDue => w.readDue
  | .work source => w.work source
  | .load file => w.load file
  | .sync => w.sync
  | .replace => w.replace

def play (w : Interplay) (turns : List Turn) : Interplay := turns.foldl turn w

/-- All ticks that have begun, in order. -/
def visits (w : Interplay) : List Visit := w.done ++ w.tick.visit?.toList

end Interplay

end AlertPolicy.Engine
