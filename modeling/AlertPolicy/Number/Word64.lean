import AlertPolicy.Number.Natural

/-!
Numbers held in 64 bits. A sum or a product that does not fit is refused; none wraps around.
-/

namespace AlertPolicy.Number

namespace Word64

/-- The word of a number, if it fits. -/
def ofNat? (n : Nat) : Option UInt64 :=
  if h : n < UInt64.size then some (UInt64.ofNatLT n h) else none

theorem ofNat?_eq_some_iff {n : Nat} {w : UInt64} : ofNat? n = some w ↔ w.toNat = n := by
  unfold ofNat?
  split
  · next h =>
      rw [Option.some.injEq, ← UInt64.toNat_inj, UInt64.toNat_ofNatLT]
      exact eq_comm
  · next h =>
      have hlt := w.toNat_lt_size
      simp only [reduceCtorEq, false_iff]
      omega

def add? (a b : UInt64) : Option UInt64 := ofNat? (a.toNat + b.toNat)

def mul? (a b : UInt64) : Option UInt64 := ofNat? (a.toNat * b.toNat)

/-- The word that one or more digits stand for. -/
def ofDigits? (cs : List Char) : Option UInt64 :=
  if isDigits cs then ofNat? (ofDigits cs) else none

theorem ofDigits?_eq_some_iff {cs : List Char} {w : UInt64} :
    ofDigits? cs = some w ↔ isDigits cs ∧ w.toNat = ofDigits cs := by
  unfold ofDigits?
  split
  · next h => simp only [ofNat?_eq_some_iff, h, true_and]
  · next h => simp only [reduceCtorEq, h, false_and]

end Word64

end AlertPolicy.Number
