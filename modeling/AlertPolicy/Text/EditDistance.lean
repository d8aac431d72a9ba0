/-!
Edit distance: the least number of insertions, deletions and substitutions of single elements that
turn one list into another. It is computed row by row; a row holds the distances from one prefix
of the first list to all prefixes of the second. There are two rows only, so that each new one is
written over the row before last.
-/

namespace AlertPolicy.Text

/-- The row above, and the row that is being filled. After its last new entry, that one still holds
what was left there. -/
structure Rows where
  above : List Nat
  current : List Nat

variable {α : Type} [DecidableEq α]

namespace Rows

/-- Writes an entry of the current row; none, if the row has no such place. -/
def write? (r : Rows) (j entry : Nat) : Option Rows :=
  if j < r.current.length then some { r with current := r.current.set j entry } else none

/-- Writes the entry after the `j`-th, for the prefixes that end in `a[i]` and in `b[j]`; none, if a
list is read or written out of its range. -/
def fill? (a b : List α) (i : Nat) (r : Rows) (j : Nat) : Option Rows := do
  let x ← a[i]?
  let y ← b[j]?
  let upper ← r.above[j + 1]?
  let left ← r.current[j]?
  let diagonal ← r.above[j]?
  r.write? (j + 1) (min (min (upper + 1) (left + 1)) (diagonal + if x = y then 0 else 1))

/-- Fills the row for the prefix that ends in `a[i]` and swaps the rows. -/
def next? (a b : List α) (r : Rows) (i : Nat) : Option Rows := do
  let begun ← r.write? 0 (i + 1)
  let filled ← (List.range b.length).foldlM (fill? a b i) begun
  return ⟨filled.current, filled.above⟩

end Rows

def editDistance? (a b : List α) : Option Nat := do
  let start : Rows := ⟨List.range (b.length + 1), List.replicate (b.length + 1) 0⟩
  let rows ← (List.range a.length).foldlM (Rows.next? a b) start
  rows.above[b.length]?

/-- The distance, which is there since no list is read or written out of its range. -/
def editDistance (a b : List α) : Nat := (editDistance? a b).getD 0

end AlertPolicy.Text
