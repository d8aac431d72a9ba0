/-!
Natural numbers written in ASCII decimal digits.
-/

namespace AlertPolicy.Number

def digitValue (c : Char) : Nat := c.toNat - '0'.toNat

/-- The number before a further digit is read, and the digit appended to it. -/
def appendDigit (n : Nat) (c : Char) : Nat := 10 * n + digitValue c

/-- The value of a run of decimal digits; an empty run has the value zero. -/
def ofDigits (cs : List Char) : Nat := cs.foldl appendDigit 0

@[simp] theorem ofDigits_nil : ofDigits [] = 0 := rfl

/-- One or more digits and nothing else. -/
def isDigits (cs : List Char) : Bool := !cs.isEmpty && cs.all Char.isDigit

theorem all_of_isDigits {ds : List Char} (h : isDigits ds) : ∀ c ∈ ds, c.isDigit = true := by
  simp only [isDigits, Bool.and_eq_true, List.all_eq_true] at h
  exact h.2

theorem ne_nil_of_isDigits {ds : List Char} (h : isDigits ds) : ds ≠ [] := by
  rintro rfl
  simp [isDigits] at h

theorem isDigits_of_all {ds : List Char} (hne : ds ≠ []) (h : ∀ c ∈ ds, c.isDigit = true) :
    isDigits ds := by
  simpa [isDigits, hne] using h

/-- A number no greater than `limit`, written in digits with an optional plus sign before them. -/
def readNatural (limit : Nat) (s : String) : Option Nat :=
  let digits := match s.toList with
    | '+' :: cs => cs
    | cs => cs
  if isDigits digits && ofDigits digits ≤ limit then some (ofDigits digits) else none

end AlertPolicy.Number
