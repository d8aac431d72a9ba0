import AlertPolicy.Engine.State

/-!
A tick cut into pieces. Every rule is looked at, which makes its fetch if it needs one, and settled
when the answer is there; a group is closed after its rules. Between two pieces of work a tick can
be kept waiting for as long as it takes.
-/

namespace AlertPolicy.Engine

open Policy Store Time

/-- One piece of the work of a tick. -/
inductive Task where
  | look (g : Group) (index : Nat) (r : Rule)
  | settle (o : Outcome)
  | close (g : Group)

def groupTasks (g : Group) : List Task :=
  g.rules.zipIdx.map (fun (r, index) => .look g index r) ++ [.close g]

/-- The groups that run in a tick, in order. A name that the document does not have is passed
over. -/
def State.running (s : State) (time : Instant) : List Group :=
  (s.schedule.due time).filterMap s.document.group?

/-- The work of a tick, which is fixed when it starts. -/
def State.tasks (s : State) (time : Instant) : List Task := (s.running time).flatMap groupTasks

/-- What the work of a tick is done on. -/
structure Progress where
  state : State
  /-- The fetches made so far, in this tick and before. -/
  fetches : Nat
  tick : Tick

/-- What answers each fetch, by the number of fetches before it. -/
abbrev Sources := Nat → Source

namespace Task

def size : Task → Nat
  | look .. => 2
  | _ => 1

def sizes : List Task → Nat
  | [] => 0
  | task :: tasks => task.size + sizes tasks

/-- Does one piece of work, and gives what has to be done next because of it. -/
def perform (sources : Sources) (q : Progress) : Task → Progress × List Task
  | look g index r =>
      let o := evaluateRule (sources q.fetches) q.tick.time g index r
      ({ q with
        fetches := q.fetches + o.fetched.toList.length
        tick := q.tick.fetch o.fetched }, [settle o])
  | settle o => ({ q with tick := q.tick.settle o }, [])
  | close g =>
      let schedule := q.state.schedule.recordRun g.name q.tick.time
      ({ q with
        state := { q.state with schedule := schedule }
        tick := q.tick.close g }, [])

end Task

end AlertPolicy.Engine
