import AlertPolicy.Log
import AlertPolicy.Policy.Document
import AlertPolicy.Time.Instant

/-!
Which groups are due. A schedule has one entry for each group name; it is brought in line with a
document whenever that changes, and a name that stays keeps the time of its last run. The order of
the entries carries no meaning, since groups run in the order of their positions.
-/

namespace AlertPolicy

open Policy Time

structure ScheduleEntry where
  name : String
  /-- The place of the group in the document. -/
  position : Nat
  period : Option Duration
  lastRun : Option Instant
  deriving DecidableEq

namespace ScheduleEntry

/-- How long the group has to wait yet, in nanoseconds. A group without a period or one that has
never run does not wait, and while the clock is set back no time passes. -/
def remaining (e : ScheduleEntry) (now : Instant) : Nat :=
  match e.period, e.lastRun with
  | some p, some last => p.milliseconds * 1000000 - Instant.elapsed last now
  | _, _ => 0

def isDue (e : ScheduleEntry) (now : Instant) : Bool := e.remaining now == 0

/-- What is said of a group that has to wait. -/
def waitingEvents (e : ScheduleEntry) (now : Instant) : List LogEvent :=
  if e.isDue now then []
  else
    [⟨.debug, "group interval not elapsed",
      [("group", e.name), ("remaining_ms", toString (e.remaining now / 1000000))]⟩]

end ScheduleEntry

structure Schedule where
  entries : List ScheduleEntry
  deriving DecidableEq

namespace Schedule

def empty : Schedule := ⟨[]⟩

def get? (s : Schedule) (name : String) : Option ScheduleEntry :=
  s.entries.find? (·.name == name)

/-- The period of a group; an interval that is no duration counts as none. -/
def periodOf (g : Group) : Option Duration :=
  match g.period with
  | .ok period => period
  | .error _ => none

/-- The entries with that of the group at its new place, or with a new entry for it. -/
def place (g : Group) (position : Nat) : List ScheduleEntry → List ScheduleEntry
  | [] => [⟨g.name, position, periodOf g, none⟩]
  | e :: es =>
      if e.name = g.name then { e with position := position, period := periodOf g } :: es
      else e :: place g position es

/-- The schedule of the groups: entries of other names go, and of groups with one name the last one
counts. -/
def sync (s : Schedule) (groups : List Group) : Schedule :=
  let kept := s.entries.filter fun e => groups.any (·.name == e.name)
  ⟨groups.zipIdx.foldl (fun es (g, i) => place g i es) kept⟩

/-- What is said of intervals that are no durations. -/
def syncEvents (groups : List Group) : List LogEvent :=
  groups.filterMap fun g =>
    match g.period with
    | .ok _ => none
    | .error raw =>
        some ⟨.warn, "invalid group interval, running every tick",
          [("group", g.name), ("interval", raw)]⟩

/-- Whether a group is due; one without an entry never is. -/
def shouldRun (s : Schedule) (name : String) (now : Instant) : Bool :=
  (s.get? name).any (·.isDue now)

def recordRun (s : Schedule) (name : String) (time : Instant) : Schedule :=
  ⟨s.entries.map fun e => if e.name = name then { e with lastRun := some time } else e⟩

/-- The names of the groups that are due, by their positions. Each entry is asked for by its name. -/
def due (s : Schedule) (now : Instant) : List String :=
  let ready := s.entries.filter fun e => s.shouldRun e.name now
  (ready.mergeSort fun a b => a.position ≤ b.position).map (·.name)

end Schedule

end AlertPolicy
