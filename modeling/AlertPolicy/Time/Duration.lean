import AlertPolicy.Number.Word64
import AlertPolicy.Text.Blank

/-!
Durations of ticks and group intervals. A duration is a positive number of milliseconds below
`2 ^ 64`, and both bounds are part of the type. It is written as components such as `2m30s`, or as
a bare number of seconds; only the first word of a text is read.
-/

namespace AlertPolicy.Time

open AlertPolicy.Number AlertPolicy.Text

inductive TimeUnit where
  | day
  | hour
  | minute
  | second
  | millisecond
  deriving DecidableEq, Repr

namespace TimeUnit

def milliseconds : TimeUnit → UInt64
  | day => 86400000
  | hour => 3600000
  | minute => 60000
  | second => 1000
  | millisecond => 1

/-- The unit that is written as the one character. -/
def ofChar? : Char → Option TimeUnit
  | 'd' => some day
  | 'h' => some hour
  | 'm' => some minute
  | 's' => some second
  | _ => none

/-- The milliseconds of as many units as the digits say. -/
def count? (unit : TimeUnit) (digits : List Char) : Option UInt64 := do
  let n ← Word64.ofDigits? digits
  Word64.mul? n unit.milliseconds

end TimeUnit

/-- How far a word has been read: the sum of its components up to here, the digits behind the last
of them, and whether there was one. -/
structure DurationScan where
  total : UInt64
  digits : List Char
  foundUnit : Bool
  deriving DecidableEq, Repr

namespace DurationScan

def start : DurationScan := ⟨0, [], false⟩

def push (scan : DurationScan) (c : Char) : DurationScan :=
  { scan with digits := scan.digits ++ [c] }

/-- The digits become a component of the unit, unless there are none or the sum grows too large. -/
def close (scan : DurationScan) (unit : TimeUnit) : Option DurationScan := do
  let value ← unit.count? scan.digits
  let total ← Word64.add? scan.total value
  return ⟨total, [], true⟩

/-- Reads all characters from here on. An `m` with an `s` behind it is one unit. -/
def read? (scan : DurationScan) : List Char → Option DurationScan
  | [] => some scan
  | 'm' :: 's' :: cs => (scan.close .millisecond).bind fun next => next.read? cs
  | c :: cs =>
      if c.isDigit then (scan.push c).read? cs
      else
        match TimeUnit.ofChar? c with
        | some unit => (scan.close unit).bind fun next => next.read? cs
        | none => none

/-- The milliseconds of a word that has been read to its end. Digits without a unit are seconds if
they are all of the word, and refused behind a component. -/
def finish? (scan : DurationScan) : Option UInt64 :=
  if scan.digits.isEmpty then some scan.total
  else if scan.foundUnit then none
  else TimeUnit.second.count? scan.digits

end DurationScan

structure Duration where
  milliseconds : Nat
  positive : 0 < milliseconds
  bounded : milliseconds < UInt64.size
  deriving DecidableEq, Repr

namespace Duration

def ofMilliseconds? (n : Nat) : Option Duration :=
  if h : 0 < n ∧ n < UInt64.size then some ⟨n, h.1, h.2⟩ else none

def oneSecond : Duration := ⟨1000, by decide, by decide⟩

/-- A text without a word has the sum zero, which is no duration. -/
def parse? (s : String) : Option Duration := do
  let scan ← DurationScan.start.read? (firstWord s.toList)
  let total ← scan.finish?
  ofMilliseconds? total.toNat

/-- The digits of a number of thousandths without the zeros at the end. -/
def thousandthsText (n : Nat) : String :=
  let digits := (Nat.toDigits 10 (1000 + n)).drop 1
  String.ofList (digits.reverse.dropWhile (· == '0')).reverse

/-- In seconds from one second on, with as many decimals as are needed; else in milliseconds. -/
def text (d : Duration) : String :=
  let seconds := d.milliseconds / 1000
  let rest := d.milliseconds % 1000
  if seconds = 0 then toString rest ++ "ms"
  else if rest = 0 then toString seconds ++ "s"
  else toString seconds ++ "." ++ thousandthsText rest ++ "s"

end Duration

end AlertPolicy.Time
