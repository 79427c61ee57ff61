import GatewayAgent.Time.Duration

/-!
# Instants

A point in time on the proleptic Gregorian calendar in UTC, counted in nanoseconds from the
beginning of 1970. A clock can hold the years from `-262143` to `262142`; adding a span stays
inside that range or gives nothing.

`Instant.rfc3339` writes an instant to the second.
-/

namespace GatewayAgent

/-- The day number, counted from 1970-01-01, of a date. Years run from March to February, so that
the leap day comes last. -/
def dayNumber (year : Int) (month day : Nat) : Int :=
  let y := if month ≤ 2 then year - 1 else year
  let era := y.fdiv 400
  let yearOfEra := y - era * 400
  let monthFromMarch := (month + 9) % 12
  let dayOfYear := (153 * monthFromMarch + 2) / 5 + day - 1
  let dayOfEra := yearOfEra * 365 + yearOfEra.fdiv 4 - yearOfEra.fdiv 100 + dayOfYear
  era * 146097 + dayOfEra - 719468

/-- The year, month and day of a day number. -/
def calendarDate (days : Int) : Int × Nat × Nat :=
  let z := days + 719468
  let era := z.fdiv 146097
  let dayOfEra := (z - era * 146097).toNat
  let yearOfEra := (dayOfEra - dayOfEra / 1460 + dayOfEra / 36524 - dayOfEra / 146096) / 365
  let dayOfYear := dayOfEra - (365 * yearOfEra + yearOfEra / 4 - yearOfEra / 100)
  let monthFromMarch := (5 * dayOfYear + 2) / 153
  let day := dayOfYear - (153 * monthFromMarch + 2) / 5 + 1
  let month := if monthFromMarch < 10 then monthFromMarch + 3 else monthFromMarch - 9
  let year : Int := (yearOfEra : Int) + era * 400
  (if month ≤ 2 then year + 1 else year, month, day)

/-- A point in time. -/
structure Instant where
  /-- Nanoseconds since the beginning of 1970, negative before it. -/
  nanos : Int
  deriving DecidableEq, Repr, Inhabited

namespace Instant

instance : LE Instant := ⟨fun a b => a.nanos ≤ b.nanos⟩

instance : LT Instant := ⟨fun a b => a.nanos < b.nanos⟩

instance (a b : Instant) : Decidable (a ≤ b) := inferInstanceAs (Decidable (a.nanos ≤ b.nanos))

instance (a b : Instant) : Decidable (a < b) := inferInstanceAs (Decidable (a.nanos < b.nanos))

/-- Seconds since the beginning of 1970, and nanoseconds on top. -/
def ofUnix (secs : Int) (nanos : Nat := 0) : Instant := ⟨secs * 1000000000 + nanos⟩

/-- The whole seconds since the beginning of 1970, rounded to the past. -/
def unixSecs (t : Instant) : Int := t.nanos.fdiv 1000000000

/-- The nanoseconds beyond the whole seconds. -/
def subsecNanos (t : Instant) : Nat := (t.nanos.fmod 1000000000).toNat

/-- The first instant that a clock can hold. -/
def earliest : Instant := ofUnix (dayNumber (-262143) 1 1 * 86400)

/-- The last instant that a clock can hold. -/
def latest : Instant := ofUnix (dayNumber 262142 12 31 * 86400 + 86399) 999999999

/-- Whether a clock can hold the instant. -/
def Representable (t : Instant) : Prop := earliest ≤ t ∧ t ≤ latest

instance (t : Instant) : Decidable t.Representable :=
  inferInstanceAs (Decidable (earliest ≤ t ∧ t ≤ latest))

/-- The longest span that can be added to an instant: `2 ^ 63 - 1` milliseconds. -/
def longestSpan : Duration := Duration.ofMillis (Nat.pow 2 63 - 1)

/-- The instant a span later, without regard to what a clock can hold. -/
def later (t : Instant) (d : Duration) : Instant := ⟨t.nanos + d.nanos⟩

/-- The instant a span later, if the span is not too long and a clock can hold the result. -/
def add? (t : Instant) (d : Duration) : Option Instant :=
  if d ≤ longestSpan ∧ (t.later d).Representable then some (t.later d) else none

/-- A number in decimal with at least `width` digits. -/
def padded (width n : Nat) : String :=
  let digits := toString n
  String.ofList (List.replicate (width - digits.length) '0') ++ digits

/-- A year of four digits, or with its sign where four digits do not hold it. -/
def yearText (year : Int) : String :=
  if 0 ≤ year ∧ year ≤ 9999 then padded 4 year.toNat
  else (if year < 0 then "-" else "+") ++ padded 4 year.natAbs

/-- The instant to the second, as `2025-01-31T08:00:00Z`. -/
def rfc3339 (t : Instant) : String :=
  let secs := t.unixSecs
  let (year, month, day) := calendarDate (secs.fdiv 86400)
  let ofDay := (secs.fmod 86400).toNat
  yearText year ++ "-" ++ padded 2 month ++ "-" ++ padded 2 day ++ "T" ++
    padded 2 (ofDay / 3600) ++ ":" ++ padded 2 (ofDay / 60 % 60) ++ ":" ++
    padded 2 (ofDay % 60) ++ "Z"

end Instant

end GatewayAgent
