import AlertPolicy.Engine.Outcome
import AlertPolicy.Schedule

/-!
One tick: the groups that are due, one after the other, and the rules of each in order. What a tick
does is put down as it is done, and the counts of its summary go up one by one.
-/

namespace AlertPolicy.Engine

open Policy Store Time

/-- What is counted of a tick. -/
structure Summary where
  time : Instant
  groups : Nat
  /-- Rules that gave a report. -/
  evaluated : Nat
  /-- Reports with any label. -/
  fired : Nat
  /-- Rules that gave none. -/
  failed : Nat
  deriving DecidableEq

/-- What a tick does to the world around it. -/
inductive Effect where
  | fetch (v : String)
  | report (r : Report)
  | say (e : LogEvent)

namespace Effect

def fetch? : Effect → Option String
  | .fetch v => some v
  | _ => none

def report? : Effect → Option Report
  | .report r => some r
  | _ => none

def event? : Effect → Option LogEvent
  | .say e => some e
  | _ => none

end Effect

/-- What a tick has done so far. -/
structure Tick where
  summary : Summary
  /-- The groups that ran, in order. -/
  groups : List Group
  /-- What was done for their rules, in order. -/
  trace : List Effect

namespace Tick

def start (time : Instant) : Tick := ⟨⟨time, 0, 0, 0, 0⟩, [], []⟩

def time (t : Tick) : Instant := t.summary.time

def fetches (t : Tick) : List String := t.trace.filterMap Effect.fetch?

def reports (t : Tick) : List Report := t.trace.filterMap Effect.report?

def events (t : Tick) : List LogEvent := t.trace.filterMap Effect.event?

/-- The tick after one more fetch, if one was made. -/
def fetch (t : Tick) (fetched : Option String) : Tick :=
  { t with trace := t.trace ++ fetched.toList.map .fetch }

/-- The tick after one more report, which has fired if it has any label. -/
def report (t : Tick) (r : Report) : Tick :=
  let counted := { t.summary with evaluated := t.summary.evaluated + 1 }
  { t with
    summary := if r.fired then { counted with fired := counted.fired + 1 } else counted
    trace := t.trace ++ [.report r] }

/-- The tick after a rule that gave no report. -/
def fail (t : Tick) (events : List LogEvent) : Tick :=
  { t with
    summary := { t.summary with failed := t.summary.failed + 1 }
    trace := t.trace ++ events.map .say }

/-- The tick after the answer to a rule: its report, or that it gave none. -/
def settle (t : Tick) (o : Outcome) : Tick :=
  match o.result with
  | .ok r => t.report r
  | .error _ => t.fail o.events

/-- The tick after what came of one more rule. -/
def add (t : Tick) (o : Outcome) : Tick := (t.fetch o.fetched).settle o

/-- The tick after one more group is done. -/
def close (t : Tick) (g : Group) : Tick :=
  { t with
    summary := { t.summary with groups := t.summary.groups + 1 }
    groups := t.groups ++ [g] }

end Tick

/-- The rules of a group from `index` on. -/
def runRules (source : Source) (g : Group) (index : Nat) (t : Tick) : List Rule → Tick
  | [] => t
  | r :: rs => runRules source g (index + 1) (t.add (evaluateRule source t.time g index r)) rs

def runGroup (source : Source) (t : Tick) (g : Group) : Tick :=
  (runRules source g 0 t g.rules).close g

/-- The groups of the names, one after the other, and the record that each of them ran. A name that
the document does not have is passed over. -/
def runGroups (d : Document) (source : Source) (t : Tick) (s : Schedule) :
    List String → Tick × Schedule
  | [] => (t, s)
  | name :: names =>
      match d.group? name with
      | none => runGroups d source t s names
      | some g => runGroups d source (runGroup source t g) (s.recordRun name t.time) names

/-- Runs the groups of the document that are due. -/
def runTick (d : Document) (s : Schedule) (source : Source) (time : Instant) : Tick × Schedule :=
  runGroups d source (.start time) s (s.due time)

end AlertPolicy.Engine
