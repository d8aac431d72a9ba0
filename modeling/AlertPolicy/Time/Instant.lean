/-!
Points in time, counted in nanoseconds from the beginning of 1970 in UTC without leap seconds, and
their RFC 3339 text in the proleptic Gregorian calendar.
-/

namespace AlertPolicy.Time

structure Instant where
  nanoseconds : Int
  deriving DecidableEq, Repr

namespace Instant

def nanosPerSecond : Nat := 1000000000

def ofUnix (seconds : Int) (nanos : Nat) : Instant :=
  ⟨seconds * nanosPerSecond + nanos⟩

/-- The last nanosecond of the year 262142; there is no date after it. -/
def last : Instant := ⟨8210266876799999999999⟩

/-- The instant `n` nanoseconds later. -/
def add (t : Instant) (n : Nat) : Instant := ⟨t.nanoseconds + n⟩

/-- The same, if there is a date for it. -/
def add? (t : Instant) (n : Nat) : Option Instant :=
  if (t.add n).nanoseconds ≤ last.nanoseconds then some (t.add n) else none

/-- The nanoseconds from `earlier` to `later`; none have passed if the clock went back. -/
def elapsed (earlier later : Instant) : Nat := (later.nanoseconds - earlier.nanoseconds).toNat

/-- The date `days` days after 1970-01-01 as year, month and day. Years are counted from March, so
that the day added in a leap year is the last one, and in eras of 400 years. -/
def civil (days : Int) : Int × Nat × Nat :=
  let shifted := days + 719468
  let era := shifted.fdiv 146097
  let dayOfEra := (shifted.fmod 146097).toNat
  let yearOfEra :=
    (dayOfEra - dayOfEra / 1460 + dayOfEra / 36524 - dayOfEra / 146096) / 365
  let dayOfYear := dayOfEra - (365 * yearOfEra + yearOfEra / 4 - yearOfEra / 100)
  let monthFromMarch := (5 * dayOfYear + 2) / 153
  let day := dayOfYear - (153 * monthFromMarch + 2) / 5 + 1
  let month := if monthFromMarch < 10 then monthFromMarch + 3 else monthFromMarch - 9
  let year : Int := yearOfEra + era * 400
  (if month ≤ 2 then year + 1 else year, month, day)

/-- Decimal digits with zeros before them up to the given width. -/
def padded (width n : Nat) : String :=
  let digits := Nat.toDigits 10 n
  String.ofList (List.replicate (width - digits.length) '0' ++ digits)

/-- Four digits for the years 0 to 9999, a sign and at least four digits for all others. -/
def yearText (year : Int) : String :=
  if 0 ≤ year ∧ year ≤ 9999 then padded 4 year.toNat
  else (if year < 0 then "-" else "+") ++ padded 4 year.natAbs

/-- None, three, six or nine digits, the fewest that say it exactly. -/
def fractionText (nanos : Nat) : String :=
  if nanos = 0 then ""
  else if nanos % 1000000 = 0 then "." ++ padded 3 (nanos / 1000000)
  else if nanos % 1000 = 0 then "." ++ padded 6 (nanos / 1000)
  else "." ++ padded 9 nanos

def rfc3339 (t : Instant) : String :=
  let seconds := t.nanoseconds.fdiv nanosPerSecond
  let nanos := (t.nanoseconds.fmod nanosPerSecond).toNat
  let secondOfDay := (seconds.fmod 86400).toNat
  let (year, month, day) := civil (seconds.fdiv 86400)
  yearText year ++ "-" ++ padded 2 month ++ "-" ++ padded 2 day ++ "T" ++
    padded 2 (secondOfDay / 3600) ++ ":" ++ padded 2 (secondOfDay / 60 % 60) ++ ":" ++
    padded 2 (secondOfDay % 60) ++ fractionText nanos ++ "Z"

end Instant

end AlertPolicy.Time
