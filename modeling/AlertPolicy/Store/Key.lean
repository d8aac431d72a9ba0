import AlertPolicy.Number.Decimal
import AlertPolicy.Sample.Label
import AlertPolicy.Store.Variable
import AlertPolicy.Text.Blank

/-!
Keys and members of the sample server. A key has four segments, as in
`root/resource/plugin/kind-instance`, and its members are samples written `time:received:sent`. The
pattern of a reference selects keys; the label of a key says whose samples it holds.
-/

namespace AlertPolicy.Store

open Sample

/-- The segments of a key that are the same for all resources. -/
structure KeyLayout where
  root : String
  plugin : String
  kind : String
  deriving DecidableEq, Repr

/-- The pattern of the keys that a reference takes in; a star matches anything. -/
def KeyLayout.pattern (l : KeyLayout) (v : VariableRef) : String :=
  l.root ++ "/" ++ v.scope.resource?.getD "*" ++ "/" ++ l.plugin ++ "/" ++ l.kind ++ "-" ++
    v.scope.interface?.getD "*"

/-- The interface that the last segment of a key names: what follows its first hyphen, if the kind
before the hyphen is one of interface counters. -/
def interfaceOfSegment? (segment : List Char) : Option String :=
  match segment.dropWhile (· != '-') with
  | '-' :: name =>
      if ['i', 'f', '_'].isPrefixOf (segment.takeWhile (· != '-')) && !name.isEmpty then
        some (String.ofList name)
      else none
  | _ => none

def labelOfKey? (key : String) : Option Label :=
  match key.toList.splitOn '/' with
  | [_, resource, _, segment] =>
      if resource.isEmpty then none
      else some ⟨String.ofList resource, interfaceOfSegment? segment⟩
  | _ => none

/-- The value at a position after the time stamp, blanks around it ignored. -/
def valueOfMember? (member : String) (position : Nat) : Option Number.Binary64 :=
  (member.toList.splitOn ':')[position + 1]?.bind fun part =>
    Number.Binary64.ofText? (Text.trim (String.ofList part))

end AlertPolicy.Store
