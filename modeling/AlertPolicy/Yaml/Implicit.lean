import AlertPolicy.Number.Decimal

/-!
Plain scalars that stand for something other than text: null, truth values and numbers. A text
that looks like one of them is written between quotes.
-/

namespace AlertPolicy.Yaml

open AlertPolicy.Number

def isNull (s : String) : Bool := ["null", "Null", "NULL", "~"].contains s

def isTruth (s : String) : Bool :=
  ["true", "True", "TRUE", "false", "False", "FALSE"].contains s

def withoutPlus : List Char → List Char
  | '+' :: cs => cs
  | cs => cs

def withoutSign : List Char → List Char
  | '+' :: cs | '-' :: cs => cs
  | cs => cs

/-- The value of digits in the base, if there are any and each is less than the base. -/
def inBase? (base : Nat) (cs : List Char) : Option Nat :=
  let value (c : Char) : Nat :=
    if c.isDigit then c.toNat - '0'.toNat
    else if c.isAlpha then c.toLower.toNat - 'a'.toNat + 10
    else base
  if !cs.isEmpty && cs.all (value · < base) then
    some (cs.foldl (fun n c => base * n + value c) 0)
  else none

/-- The number after a mark for base 16, 8 or 2. -/
def markedNumber? : List Char → Option Nat
  | '0' :: 'x' :: cs => inBase? 16 cs
  | '0' :: 'o' :: cs => inBase? 8 cs
  | '0' :: 'b' :: cs => inBase? 2 cs
  | _ => none

/-- A number with a mark for its base, held in 128 bits. -/
def isMarkedNumber : List Char → Bool
  | '-' :: cs => (markedNumber? cs).any (· ≤ 1 <<< 127)
  | cs => (markedNumber? (withoutPlus cs)).any (· < 1 <<< 128)

/-- More than one digit, the first of them a zero, after an optional sign. -/
def isZeroLed (cs : List Char) : Bool :=
  match withoutSign cs with
  | '0' :: d :: ds => (d :: ds).all Char.isDigit
  | _ => false

def isSpecialNumber (s : String) : Bool :=
  [".inf", ".Inf", ".INF", "+.inf", "+.Inf", "+.INF", "-.inf", "-.Inf", "-.INF", ".nan", ".NaN",
    ".NAN"].contains s

/-- A decimal number, with at most one sign, the value of which is finite. -/
def isDecimal (s : String) : Bool :=
  match s.toList with
  | '+' :: '+' :: _ | '+' :: '-' :: _ => false
  | cs => (Binary64.ofText? (String.ofList (withoutPlus cs))).any (·.isFinite)

/-- Whether the text, written plainly, could be taken for something other than text. -/
def isAmbiguous (s : String) : Bool :=
  s.isEmpty || isNull s || isTruth s || isMarkedNumber s.toList || isZeroLed s.toList ||
    isSpecialNumber s || isDecimal s

end AlertPolicy.Yaml
