import AlertPolicy.Policy.Document
import AlertPolicy.Yaml.Library

/-!
Documents written as YAML. Tags and the interval of a group are left out if there are none; all
other fields are written, empty or not.
-/

namespace AlertPolicy.Policy

open Yaml

def Rule.tree (r : Rule) : Tree := .fields [("record", .text r.record), ("expr", .text r.expr)]

def Group.tree (g : Group) : Tree :=
  let tags := if g.annotations.isEmpty then []
    else [("annotation", Tree.list (g.annotations.toList.map .text))]
  let interval := match g.interval with
    | some raw => [("interval", Tree.text raw)]
    | none => []
  .fields ([("name", .text g.name)] ++ tags ++ interval ++
    [("rules", .list (g.rules.map Rule.tree))])

def Document.tree (d : Document) : Tree := .fields [("groups", .list (d.groups.map Group.tree))]

def Document.toYaml [Library] (d : Document) : String := Library.write d.tree

end AlertPolicy.Policy
