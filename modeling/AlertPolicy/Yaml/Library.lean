import AlertPolicy.Yaml.Node
import AlertPolicy.Yaml.Tree

/-!
What documents need of YAML: trees are written as texts, and the content of a text is read. It is
kept open how that is done, so that what holds of documents can be said of any library that reads
back what it writes; the one that runs is an instance.
-/

namespace AlertPolicy.Yaml

class Library where
  write : Tree → String
  read? : String → Option Content

instance : Library := ⟨Tree.render, Content.read?⟩

/-! ### Nodes that show trees -/

mutual

/-- Whether a node is made of texts, lists and fields in the same way as the tree. A plain scalar
that could be something other than a text shows none, whatever is written in it. -/
def Node.shows : Node → Tree → Bool
  | .scalar none plain s, .text s' => s == s' && !(plain && isAmbiguous s)
  | .sequence items, .list ts => Node.showsItems items ts
  | .mapping pairs, .fields es => Node.showsEntries pairs es
  | _, _ => false

def Node.showsItems : List Node → List Tree → Bool
  | [], [] => true
  | n :: ns, t :: ts => n.shows t && Node.showsItems ns ts
  | _, _ => false

def Node.showsEntries : List (Node × Node) → List (String × Tree) → Bool
  | [], [] => true
  | (key, value) :: pairs, (name, t) :: es =>
      key.shows (.text name) && value.shows t && Node.showsEntries pairs es
  | _, _ => false

end

/-- The tree comes back if what is written for it is read again. -/
def Library.ReadsBack [Library] (t : Tree) : Prop :=
  (Library.read? (Library.write t)).any (·.root.shows t) = true

instance [Library] (t : Tree) : Decidable (Library.ReadsBack t) :=
  inferInstanceAs (Decidable (_ = true))

end AlertPolicy.Yaml
