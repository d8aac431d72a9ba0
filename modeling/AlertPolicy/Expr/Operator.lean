/-!
The six comparison operators and the text each is written as.
-/

namespace AlertPolicy.Expr

inductive Operator where
  | equal
  | notEqual
  | lessOrEqual
  | greaterOrEqual
  | less
  | greater
  deriving DecidableEq, Repr

namespace Operator

/-- All operators, each before those whose text is the beginning of its own. -/
def all : List Operator := [equal, notEqual, lessOrEqual, greaterOrEqual, less, greater]

def chars : Operator → List Char
  | equal => ['=', '=']
  | notEqual => ['!', '=']
  | lessOrEqual => ['<', '=']
  | greaterOrEqual => ['>', '=']
  | less => ['<']
  | greater => ['>']

def text (op : Operator) : String := String.ofList op.chars

def ofText? (s : String) : Option Operator := all.find? fun op => op.text == s

theorem mem_all (op : Operator) : op ∈ all := by cases op <;> decide

/-- The first of all operators that the characters begin with, and what follows it. -/
def read? (cs : List Char) : Option (Operator × List Char) :=
  (all.find? fun op => op.chars.isPrefixOf cs).map fun op => (op, cs.drop op.chars.length)

theorem eq_append_of_read? {cs r : List Char} {op : Operator} (h : read? cs = some (op, r)) :
    cs = op.chars ++ r := by
  obtain ⟨found, hfound, heq⟩ := Option.map_eq_some_iff.1 h
  cases heq
  have hprefix := List.find?_some hfound
  exact (List.prefix_iff_eq_append.1 (List.isPrefixOf_iff_prefix.1 hprefix)).symm

/-- What is said of a text that is no operator. -/
def unknownMessage (s : String) : String := "unknown operator: '" ++ s ++ "'"

end Operator

end AlertPolicy.Expr
