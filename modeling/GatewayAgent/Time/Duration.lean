/-!
# Durations

A span of time in whole nanoseconds, and the text that shows it: the largest unit of `s`, `ms`,
`µs`, `ns` that the span reaches, with as many decimals as it needs.
-/

namespace GatewayAgent

/-- A span of time. -/
structure Duration where
  /-- Its length in nanoseconds. -/
  nanos : Nat
  deriving DecidableEq, Repr, Inhabited

namespace Duration

/-- Whole seconds, and nanoseconds on top. -/
def ofSecs (secs : Nat) (nanos : Nat := 0) : Duration := ⟨secs * 1000000000 + nanos⟩

/-- Whole milliseconds. -/
def ofMillis (n : Nat) : Duration := ⟨n * 1000000⟩

/-- Whole microseconds. -/
def ofMicros (n : Nat) : Duration := ⟨n * 1000⟩

/-- Whole nanoseconds. -/
def ofNanos (n : Nat) : Duration := ⟨n⟩

/-- The whole seconds of a span. -/
def secs (d : Duration) : Nat := d.nanos / 1000000000

/-- The nanoseconds of a span beyond its whole seconds. -/
def subsecNanos (d : Duration) : Nat := d.nanos % 1000000000

/-- The span less `e`, or no time where `e` is longer. -/
def monus (d e : Duration) : Duration := ⟨d.nanos - e.nanos⟩

instance : LE Duration := ⟨fun d e => d.nanos ≤ e.nanos⟩

instance : LT Duration := ⟨fun d e => d.nanos < e.nanos⟩

instance (d e : Duration) : Decidable (d ≤ e) := inferInstanceAs (Decidable (d.nanos ≤ e.nanos))

instance (d e : Duration) : Decidable (d < e) := inferInstanceAs (Decidable (d.nanos < e.nanos))

/-- The decimals of `part` out of `10 ^ width`, without trailing zeros. -/
def decimals (part width : Nat) : List Char :=
  let digits := Nat.toDigits 10 part
  let padded := List.replicate (width - digits.length) '0' ++ digits
  (padded.reverse.dropWhile (· == '0')).reverse

/-- A whole number with decimals and a unit. -/
def amount (whole part width : Nat) (unit : String) : String :=
  let fraction := if part = 0 then [] else '.' :: decimals part width
  toString whole ++ String.ofList fraction ++ unit

/-- The text of a span, in the largest unit that it reaches. -/
def text (d : Duration) : String :=
  if 1000000000 ≤ d.nanos then amount d.secs d.subsecNanos 9 "s"
  else if 1000000 ≤ d.nanos then amount (d.nanos / 1000000) (d.nanos % 1000000) 6 "ms"
  else if 1000 ≤ d.nanos then amount (d.nanos / 1000) (d.nanos % 1000) 3 "µs"
  else amount d.nanos 0 0 "ns"

end Duration

end GatewayAgent
