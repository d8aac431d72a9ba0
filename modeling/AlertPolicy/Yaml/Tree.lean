import AlertPolicy.Yaml.Style

/-!
Trees of texts, lists and fields, and how they are written: one field or item on a line, nested
collections two columns further in, lists at the column of the field they belong to. Empty
collections are written in brackets.
-/

namespace AlertPolicy.Yaml

/-- A field is named by a word that needs no quotes. -/
inductive Tree where
  | text (s : String)
  | list (items : List Tree)
  | fields (entries : List (String × Tree))
  deriving Repr

namespace Tree

mutual

/-- What stands after the dash of an item the list of which is at the column. -/
def itemText (column : Nat) : Tree → String
  | .text s => scalarLine (column + 2) s
  | .list [] => "[]\n"
  | .list (t :: ts) => "- " ++ itemText (column + 2) t ++ itemsText (column + 2) ts
  | .fields [] => "\x7b\x7d\n"
  | .fields ((k, t) :: es) => k ++ ":" ++ valueText (column + 2) t ++ entriesText (column + 2) es

/-- What stands after the name of a field, the fields being at the column. -/
def valueText (column : Nat) : Tree → String
  | .text s => " " ++ scalarLine (column + 2) s
  | .list [] => " []\n"
  | .list (t :: ts) => "\n" ++ spaces column ++ "- " ++ itemText column t ++ itemsText column ts
  | .fields [] => " \x7b\x7d\n"
  | .fields ((k, t) :: es) =>
      "\n" ++ spaces (column + 2) ++ k ++ ":" ++ valueText (column + 2) t ++
        entriesText (column + 2) es

/-- Items on lines of their own. -/
def itemsText (column : Nat) : List Tree → String
  | [] => ""
  | t :: ts => spaces column ++ "- " ++ itemText column t ++ itemsText column ts

/-- Fields on lines of their own. -/
def entriesText (column : Nat) : List (String × Tree) → String
  | [] => ""
  | (k, t) :: es => spaces column ++ k ++ ":" ++ valueText column t ++ entriesText column es

end

/-- The text of a document. -/
def render : Tree → String
  | .text s => scalarLine 2 s
  | .list [] => "[]\n"
  | .list (t :: ts) => itemsText 0 (t :: ts)
  | .fields [] => "\x7b\x7d\n"
  | .fields (e :: es) => entriesText 0 (e :: es)

end Tree

end AlertPolicy.Yaml
