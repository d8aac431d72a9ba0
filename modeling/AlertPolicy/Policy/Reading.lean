import AlertPolicy.Policy.Document
import AlertPolicy.Yaml.Library

/-!
Documents read from YAML. Fields may come in any order and unknown ones are passed over, but a
known field may not be given twice. A missing collection is empty, as is one for which nothing is
written, and any scalar will do for a text.
-/

namespace AlertPolicy.Policy

open Yaml

/-- A result, if there is one, within the number of aliases that may still be followed. -/
abbrev Reading (α : Type) := StateT Nat Option α

/-- The node itself, or the node an alias stands for. -/
def resolve (c : Content) : Node → Reading Node
  | .alias n => do
      let left ← get
      if left = 0 then failure
      else
        set (left - 1)
        match c.anchored.lookup n with
        | some node => return node
        | none => failure
  | node => return node

def readText (c : Content) (n : Node) : Reading String := do
  match ← resolve c n with
  | .scalar _ _ text => return text
  | _ => failure

/-- A text or none, which is a plain scalar that is empty or null. -/
def readOptionalText (c : Content) (n : Node) : Reading (Option String) := do
  match ← resolve c n with
  | .scalar _ false text => return some text
  | .scalar none true text =>
      return if text.isEmpty || isNull text then none else some text
  | .scalar (some tag) true text =>
      if tag == "tag:yaml.org,2002:null" then
        if isNull text then return none else failure
      else return some text
  | _ => failure

def readItems (c : Content) (n : Node) : Reading (List Node) := do
  match ← resolve c n with
  | .sequence items => return items
  | .scalar _ true "" => return []
  | _ => failure

/-- The fields of a mapping with their names. -/
def readFields (c : Content) (n : Node) : Reading (List (String × Node)) := do
  match ← resolve c n with
  | .mapping pairs => pairs.mapM fun (key, value) => return (← readText c key, value)
  | .scalar _ true "" => return []
  | _ => failure

/-- The value of a field, read if the field is there. -/
def readField {α : Type} (name : String) (absent : Reading α) (read : Node → Reading α)
    (fields : List (String × Node)) : Reading α :=
  match fields.filter (·.1 == name) with
  | [] => absent
  | [(_, value)] => read value
  | _ => failure

def readRule (c : Content) (n : Node) : Reading Rule := do
  let fields ← readFields c n
  let record ← readField "record" (pure "") (readText c) fields
  let expr ← readField "expr" failure (readText c) fields
  return ⟨record, expr⟩

def readList {α : Type} (c : Content) (read : Node → Reading α) (n : Node) : Reading (List α) := do
  (← readItems c n).mapM read

def readGroup (c : Content) (n : Node) : Reading Group := do
  let fields ← readFields c n
  let name ← readField "name" failure (readText c) fields
  let tags ← readField "annotation" (pure []) (readList c (readText c)) fields
  let interval ← readField "interval" (pure none) (readOptionalText c) fields
  let rules ← readField "rules" (pure []) (readList c (readRule c)) fields
  return ⟨name, .ofList tags, interval, rules⟩

def readDocument (c : Content) (n : Node) : Reading Document := do
  let fields ← readFields c n
  return ⟨← readField "groups" (pure []) (readList c (readGroup c)) fields⟩

/-- The document a stream holds. -/
def Document.ofContent? (c : Content) : Option Document :=
  ((readDocument c c.root).run c.followLimit).map (·.1)

def Document.ofYaml? [Library] (s : String) : Option Document :=
  (Library.read? s).bind Document.ofContent?

end AlertPolicy.Policy
