import AlertPolicy.Yaml.Event

/-!
Nodes of a YAML stream that holds one document, and the nodes its aliases stand for. An alias that
is not followed costs nothing, so nodes keep their aliases, and a document may even contain itself.
-/

namespace AlertPolicy.Yaml

inductive Node where
  | scalar (tag : Option String) (plain : Bool) (text : String)
  | sequence (items : List Node)
  | mapping (pairs : List (Node × Node))
  | alias (anchor : Nat)
  deriving Repr

/-! ### Anchors -/

def Event.anchor? : Event → Option String
  | .scalar anchor .. | .sequenceStart anchor | .mappingStart anchor => anchor
  | _ => none

/-- The anchors up to some event: the number each name stands for, and the index of the event that
each number stands for, the last entry first. -/
structure Anchors where
  numbers : List (String × Nat)
  events : List (Nat × Nat)
  deriving Repr

/-- A name takes the number of names that are known before it, also if it is known already. A
number can be given twice that way; it stands for the event it was given last. -/
def Anchors.add (a : Anchors) (name : String) (event : Nat) : Anchors :=
  let number := a.numbers.length
  ⟨(name, number) :: a.numbers.filter (·.1 != name), (number, event) :: a.events⟩

/-- The numbers of the aliases among the events from `index` on, and all anchors; an alias without
an anchor before it is refused. -/
def numberAliases? (a : Anchors) (index : Nat) : List Event → Option (List Nat × Anchors)
  | [] => some ([], a)
  | .alias name :: es => do
      let number ← a.numbers.lookup name
      let (numbers, anchors) ← numberAliases? a (index + 1) es
      return (number :: numbers, anchors)
  | e :: es =>
      let a := match e.anchor? with
        | some name => a.add name index
        | none => a
      (numberAliases? a (index + 1) es).map fun (numbers, anchors) => (numbers, anchors)

/-! ### Nodes of events -/

/-- Events with the names of aliases replaced by their numbers. -/
inductive Numbered where
  | alias (anchor : Nat)
  | other (e : Event)
  deriving Repr

def numbered : List Nat → List Event → List Numbered
  | n :: ns, .alias _ :: es => .alias n :: numbered ns es
  | ns, e :: es => .other e :: numbered ns es
  | _, [] => []

mutual

/-- The node that begins with the first event, and the events after it. -/
def nodeOf? : Nat → List Numbered → Option (Node × List Numbered)
  | 0, _ => none
  | fuel + 1, es =>
      match es with
      | .alias n :: es => some (.alias n, es)
      | .other (.scalar _ tag plain text) :: es => some (.scalar tag plain text, es)
      | .other (.sequenceStart _) :: es =>
          (itemsOf? fuel es).map fun (items, es) => (.sequence items, es)
      | .other (.mappingStart _) :: es =>
          (pairsOf? fuel es).map fun (pairs, es) => (.mapping pairs, es)
      | _ => none

def itemsOf? : Nat → List Numbered → Option (List Node × List Numbered)
  | 0, _ => none
  | fuel + 1, es =>
      match es with
      | .other .sequenceEnd :: es => some ([], es)
      | es => do
          let (item, es) ← nodeOf? fuel es
          let (items, es) ← itemsOf? fuel es
          return (item :: items, es)

def pairsOf? : Nat → List Numbered → Option (List (Node × Node) × List Numbered)
  | 0, _ => none
  | fuel + 1, es =>
      match es with
      | .other .mappingEnd :: es => some ([], es)
      | es => do
          let (key, es) ← nodeOf? fuel es
          let (value, es) ← nodeOf? fuel es
          let (pairs, es) ← pairsOf? fuel es
          return ((key, value) :: pairs, es)

end

/-! ### Streams -/

structure Content where
  root : Node
  /-- The node that each anchor stands for; the first entry for an anchor counts. -/
  anchored : List (Nat × Node)
  /-- How many aliases may be followed while the document is read. -/
  followLimit : Nat
  deriving Repr

/-- The content of a document, an alias being followed at most a hundred times for each of its
events. -/
def Content.ofEvents? (es : List Event) : Option Content := do
  let (numbers, anchors) ← numberAliases? ⟨[], []⟩ 0 es
  let all := numbered numbers es
  let fuel := es.length + 1
  let (root, _) ← nodeOf? fuel all
  let anchored ← anchors.events.mapM fun (number, index) =>
    (nodeOf? fuel (all.drop index)).map fun (node, _) => (number, node)
  return ⟨root, anchored, 100 * es.length⟩

/-- Reads a stream of at most one document. A stream without any counts as one empty scalar. -/
def Content.read? (s : String) : Option Content := do
  let tokens ← tokens? s.toList
  match ← documentEvents? (tokens.length + 2) true tokens with
  | [] => Content.ofEvents? [.missing]
  | [events] => Content.ofEvents? events.toList
  | _ => none

end AlertPolicy.Yaml
