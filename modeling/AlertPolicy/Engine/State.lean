import AlertPolicy.Engine.Tick
import AlertPolicy.Policy.Loading
import AlertPolicy.Policy.Validation

/-!
The state of an engine: the document in force and the schedule of its groups. Loading the policy
file again replaces the document and brings the schedule in line with it, or changes nothing.
-/

namespace AlertPolicy.Engine

open Policy Store Time

structure State where
  document : Document
  schedule : Schedule
  /-- The path of the policy file, if the document came from one. -/
  path : Option String
  deriving DecidableEq

/-- What is said of the findings in a document: errors first. Only a warning can bring along its
suggestion. -/
def findingEvents (fs : Findings) : List LogEvent :=
  let path (f : Finding) := ("path", f.location.path)
  fs.errors.map (fun f => ⟨.warn, f.message, [path f]⟩) ++
    fs.warnings.map fun f =>
      ⟨.info, f.message, path f :: (f.suggestion.map fun s => ("suggestion", s)).toList⟩

/-- What is said of a document that was loaded. -/
def loadedEvents (path : String) (d : Document) : List LogEvent :=
  ⟨.info, "loaded policy document",
    [("path", path), ("groups", toString d.groups.length), ("rules", toString d.ruleCount)]⟩ ::
    findingEvents d.validate

namespace State

/-- An engine over a document that does not change. -/
def ofDocument (d : Document) : State := ⟨d, Schedule.empty.sync d.groups, none⟩

def startEvents (d : Document) : List LogEvent := Schedule.syncEvents d.groups

variable [Yaml.Library]

/-- An engine over a policy file, which must load. -/
def ofFile (path : String) (file : Option ByteArray) :
    Except LoadError (State × List LogEvent) :=
  (Document.loadFile file).map fun d =>
    ({ ofDocument d with path := some path }, loadedEvents path d ++ startEvents d)

/-- The state with another document in force. -/
def adopt (s : State) (d : Document) : State :=
  { s with document := d, schedule := s.schedule.sync d.groups }

/-- Loads the policy file again. An engine without one stays as it is. -/
def reload (s : State) (file : Option ByteArray) : Except LoadError State :=
  match s.path with
  | none => .ok s
  | some _ => (Document.loadFile file).map s.adopt

/-- The state after an attempt to reload, successful or not. -/
def afterReload (s : State) (file : Option ByteArray) : State :=
  match s.reload file with
  | .ok next => next
  | .error _ => s

def reloadEvents (s : State) (file : Option ByteArray) : List LogEvent :=
  match s.path with
  | none => []
  | some path =>
      match Document.loadFile file with
      | .ok d =>
          loadedEvents path d ++ startEvents d ++ [⟨.info, "policy reloaded", [("path", path)]⟩]
      | .error e =>
          [⟨.warn, "policy reload failed, keeping previous document",
            [("path", path), ("error", e.message)]⟩]

def tick (s : State) (source : Source) (time : Instant) : Tick × State :=
  let (t, schedule) := runTick s.document s.schedule source time
  (t, { s with schedule := schedule })

end State

end AlertPolicy.Engine
