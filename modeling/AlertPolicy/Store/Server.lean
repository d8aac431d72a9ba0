import AlertPolicy.Log
import AlertPolicy.Store.Connection
import AlertPolicy.Store.Memory

/-!
Fetching from a sample server. A fetch lists the keys of a pattern, reads the members of each key
that has a label within the window of time, and makes one series of each, in the order of the keys.
It fails as a whole if any of its commands does or if any reply is not UTF-8.
-/

namespace AlertPolicy.Store

open Sample

/-- Scores are seconds in 64 bits with a sign. -/
inductive ServerCommand where
  | auth (password : String)
  | select (database : Nat)
  | keys (pattern : String)
  | rangeByScore (key : String) (least greatest : Int64)
  deriving DecidableEq, Repr

/-- What a server answers; none is an error. -/
structure Replies where
  keys : String → Option (List ByteArray)
  members : String → Option (List ByteArray)

inductive Endpoint where
  | unreachable
  | answering (replies : Replies)

/-- What was sent and said, and what came of it. -/
structure Exchange (α : Type) where
  commands : List ServerCommand
  events : List LogEvent
  result : Except StoreError α

/-- Octets as texts, if all of them are UTF-8. -/
def texts? (octets : List ByteArray) : Option (List String) := octets.mapM String.fromUTF8?

/-- The scores of a window that ends now. The arithmetic is that of 64 bits, so a window of `2 ^ 63`
seconds or more does not lie in the past. -/
def windowStart (window : UInt64) (now : Int64) : Int64 := now - window.toInt64

namespace Endpoint

/-- What is sent to a server that is reached: the password if there is one, and the database unless
it is the first. -/
def greeting (t : Target) : List ServerCommand :=
  (t.password.map ServerCommand.auth).toList ++
    (if t.database = 0 then [] else [.select t.database])

/-- Connects to the server that the settings name. -/
def connect (e : Endpoint) (s : ServerSettings) : Exchange Replies :=
  match Target.read? s.connectionString, e with
  | some target, .answering replies =>
      ⟨greeting target,
        [⟨.info, "connected to redis sample store",
          [("host", s.host), ("port", toString s.tcpPort), ("db", toString s.database)]⟩],
        .ok replies⟩
  | _, _ => ⟨[], [], .error .server⟩

end Endpoint

namespace Replies

/-- The series of keys in the given order. -/
def readKeys (r : Replies) (position : Nat) (least greatest : Int64) :
    List String → Exchange (List Series)
  | [] => ⟨[], [], .ok []⟩
  | key :: keys =>
      match labelOfKey? key with
      | none =>
          let rest := readKeys r position least greatest keys
          let said : LogEvent := ⟨.warn, "skipping key with unexpected layout", [("key", key)]⟩
          { rest with events := said :: rest.events }
      | some label =>
          let command := ServerCommand.rangeByScore key least greatest
          match (r.members key).bind texts? with
          | none => ⟨[command], [], .error .server⟩
          | some members =>
              let rest := readKeys r position least greatest keys
              let unusable := members.filter fun m => (valueOfMember? m position).isNone
              let said := unusable.map fun m =>
                ⟨.warn, "skipping malformed sample", [("key", key), ("member", m)]⟩
              let series : Series := ⟨label, members.filterMap (valueOfMember? · position)⟩
              ⟨command :: rest.commands, said ++ rest.events, rest.result.map (series :: ·)⟩

/-- Fetches a variable at a time in seconds. -/
def fetch (r : Replies) (s : ServerSettings) (now : Int64) (v : String) :
    Exchange (List Series) :=
  match VariableRef.parse v with
  | .error e => ⟨[], [], .error e⟩
  | .ok ref =>
      let pattern := s.layout.pattern ref
      match (r.keys pattern).bind texts? with
      | none => ⟨[.keys pattern], [], .error .server⟩
      | some keys =>
          let sorted := keys.mergeSort fun a b => decide (a ≤ b)
          let read := r.readKeys ref.field.position (windowStart s.window now) now sorted
          { read with commands := .keys pattern :: read.commands }

def toSource (r : Replies) (s : ServerSettings) (now : Int64) : Source :=
  fun v => (r.fetch s now v).result

end Replies

end AlertPolicy.Store
