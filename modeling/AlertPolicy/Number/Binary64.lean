/-!
Numbers of the IEEE 754 format binary64, kept as the 64 bits that encode them. Comparison goes
through `rank`, the magnitude bits with the sign applied: it orders all values but NaN, and both
zeros have rank zero. No arithmetic is defined, since samples are only ever compared.
-/

namespace AlertPolicy.Number

structure Binary64 where
  bits : UInt64
  deriving DecidableEq, Repr

namespace Binary64

/-- The magnitude bits of infinity; those of a finite number are less, those of a NaN greater. -/
def infinityMagnitude : Nat := 0x7FF0000000000000

def signBit : Nat := 0x8000000000000000

def ofParts (negative : Bool) (magnitude : Nat) : Binary64 :=
  ⟨UInt64.ofNat (if negative then signBit + magnitude else magnitude)⟩

def isNegative (x : Binary64) : Bool := signBit ≤ x.bits.toNat

def magnitude (x : Binary64) : Nat := x.bits.toNat % signBit

def isNaN (x : Binary64) : Bool := infinityMagnitude < x.magnitude

def isFinite (x : Binary64) : Bool := x.magnitude < infinityMagnitude

def nan : Binary64 := ofParts false 0x7FF8000000000000

/-- The position of a number in the order of all numbers that are not NaN. -/
def rank (x : Binary64) : Int :=
  if x.isNegative then -(x.magnitude : Int) else x.magnitude

/-- Equality of values: the zeros are equal, and NaN equals nothing. -/
def equals (x y : Binary64) : Bool := !x.isNaN && !y.isNaN && x.rank == y.rank

def lessThan (x y : Binary64) : Bool := !x.isNaN && !y.isNaN && x.rank < y.rank

def atMost (x y : Binary64) : Bool := !x.isNaN && !y.isNaN && x.rank ≤ y.rank

end Binary64

end AlertPolicy.Number
