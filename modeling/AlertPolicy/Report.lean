import AlertPolicy.Text.Json
import AlertPolicy.Sample.Label
import AlertPolicy.Time.Instant

/-!
Reports and their lines: a text that names the group, the index of the rule, its record and the
labels, or a JSON object. The text shows names and labels as they are, whatever they hold.
-/

namespace AlertPolicy

open Sample Text Time

/-- The labels that satisfied the condition of a rule, with what identifies the rule. -/
structure Report where
  group : String
  index : Nat
  record : String
  annotations : OrderedSet String
  labels : OrderedSet Label
  time : Instant
  deriving DecidableEq

namespace Report

def fired (r : Report) : Bool := !r.labels.isEmpty

def textLine (r : Report) : String :=
  "transmit: " ++ r.group ++ "[" ++ toString r.index ++ "] " ++ r.record ++ ": [" ++
    ", ".intercalate (r.labels.toList.map Label.text) ++ "]"

def labelJson (l : Label) : Json :=
  .record (("resource_id", .text l.resource) ::
    (l.interface.map fun i => ("sub_resource_id", Json.text i)).toList)

def json (r : Report) : Json :=
  .record [("group", .text r.group), ("index", .number r.index), ("record", .text r.record),
    ("annotations", .list (r.annotations.toList.map .text)),
    ("labels", .list (r.labels.toList.map labelJson)), ("evaluated_at", .text r.time.rfc3339)]

def jsonLine (r : Report) : String := r.json.compact

end Report

end AlertPolicy
