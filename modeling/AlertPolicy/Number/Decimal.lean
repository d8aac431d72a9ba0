import AlertPolicy.Number.Natural
import AlertPolicy.Number.Rounding

/-!
Decimal numerals of samples and thresholds: an optional sign, digits with an optional point among,
before or after them, and an optional exponent; or one of the words for infinity and NaN in any
mixture of cases. A numeral denotes the nearest binary64 number.
-/

namespace AlertPolicy.Number

/-- `digits * 10 ^ exponent`, where `width` is the number of digits written. -/
structure Decimal where
  digits : Nat
  width : Nat
  exponent : Int
  deriving DecidableEq, Repr

namespace Decimal

/-- The nearest magnitude. A value of `10 ^ 310` or more is infinite and one below `10 ^ -330` is
zero whatever its digits are, so no power of ten larger than that is ever formed. -/
def magnitude (d : Decimal) : Nat :=
  if d.digits = 0 then 0
  else if 310 + d.width < d.exponent then Binary64.infinityMagnitude
  else if d.width + d.exponent < -330 then 0
  else if 0 ≤ d.exponent then nearestMagnitude (d.digits * Nat.pow 10 d.exponent.toNat) 1
  else nearestMagnitude d.digits (Nat.pow 10 (-d.exponent).toNat)

/-- An exponent mark, its optional sign and its digits, up to the end of the text. -/
def readExponent : List Char → Option Int
  | [] => some 0
  | mark :: cs =>
      if mark != 'e' && mark != 'E' then none
      else
        let (negative, digits) := match cs with
          | '-' :: r => (true, r)
          | '+' :: r => (false, r)
          | r => (false, r)
        if isDigits digits then
          some (if negative then -(ofDigits digits : Int) else ofDigits digits)
        else none

/-- A numeral without its sign. -/
def read (cs : List Char) : Option Decimal :=
  let whole := cs.takeWhile Char.isDigit
  let (fraction, rest) := match cs.dropWhile Char.isDigit with
    | '.' :: r => (r.takeWhile Char.isDigit, r.dropWhile Char.isDigit)
    | r => ([], r)
  let digits := whole ++ fraction
  if digits.isEmpty then none
  else (readExponent rest).map fun e => ⟨ofDigits digits, digits.length, e - fraction.length⟩

end Decimal

namespace Binary64

/-- The magnitude bits of a number written as a word. -/
def magnitudeOfWord (cs : List Char) : Option Nat :=
  match String.ofList (cs.map Char.toLower) with
  | "inf" | "infinity" => some infinityMagnitude
  | "nan" => some nan.magnitude
  | _ => none

/-- The number a numeral or a word denotes. -/
def ofText? (s : String) : Option Binary64 :=
  let (negative, cs) := match s.toList with
    | '-' :: r => (true, r)
    | '+' :: r => (false, r)
    | r => (false, r)
  match Decimal.read cs with
  | some d => some (ofParts negative d.magnitude)
  | none => (magnitudeOfWord cs).map (ofParts negative)

end Binary64

end AlertPolicy.Number
