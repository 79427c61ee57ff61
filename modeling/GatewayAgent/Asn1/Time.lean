import GatewayAgent.Asn1.Element
import GatewayAgent.Text.Decimal
import GatewayAgent.Time.Instant

/-!
# Points in time as text

The two forms of a point in time in tagged data: one with two digits for a year from 1950 to 2049,
and one with four. Both are read to the second, counted from the beginning of 1970.
-/

namespace GatewayAgent.Asn1

/-- The number of days of a month. -/
def daysIn (year : Int) (month : Nat) : Nat :=
  if month = 2 then if year % 4 = 0 ∧ (year % 100 ≠ 0 ∨ year % 400 = 0) then 29 else 28
  else if month = 4 ∨ month = 6 ∨ month = 9 ∨ month = 11 then 30
  else 31

/-- The seconds up to a date and a time of the day, if there are such. -/
def secondsOf? (year : Int) (month day hour minute second : Nat) : Option Int :=
  if 1 ≤ month ∧ month ≤ 12 ∧ 1 ≤ day ∧ day ≤ daysIn year month ∧ hour ≤ 23 ∧ minute ≤ 59 ∧
      second ≤ 59 then
    some (dayNumber year month day * 86400 + (hour * 3600 + minute * 60 + second : Nat))
  else none

/-- Takes a numeral of a fixed number of digits. -/
def fixedDigits (width : Nat) (cs : List Char) : Option (Nat × List Char) :=
  let ds := cs.take width
  if ds.length = width && ds.all Text.Digit then
    some (Text.digitsValue 0 ds, cs.drop width)
  else none

/-- Takes month, day, hour, minute and second. The second may be left out in front of a single
character. -/
def restOfDate (year : Int) (cs : List Char) : Option (Int × List Char) := do
  let (month, cs) ← fixedDigits 2 cs
  let (day, cs) ← fixedDigits 2 cs
  let (hour, cs) ← fixedDigits 2 cs
  let (minute, cs) ← fixedDigits 2 cs
  let (second, cs) ← if cs.length ≤ 1 then some (0, cs) else fixedDigits 2 cs
  let t ← secondsOf? year month day hour minute second
  some (t, cs)

/-- The distance of a zone from universal time in seconds. -/
def zoneOffset? : List Char → Option Int
  | ['Z'] => some 0
  | sign :: cs => do
    let (hours, cs) ← fixedDigits 2 cs
    let (minutes, cs) ← fixedDigits 2 cs
    if !cs.isEmpty || 25 < hours || 59 < minutes then none
    else if sign = '+' then some (hours * 3600 + minutes * 60 : Nat)
    else if sign = '-' then some (-(hours * 3600 + minutes * 60 : Nat))
    else none
  | [] => none

/-- The characters of octets that all are visible ASCII. -/
def visible? (bs : Bytes) : Option (List Char) :=
  if bs.all fun b => 0x20 ≤ b && b ≤ 0x7F then some (bs.map fun b => Char.ofNat b.toNat) else none

/-- Reads the form with two digits for the year. -/
def shortTime? (bs : Bytes) : Option Int := do
  let (yy, cs) ← fixedDigits 2 (← visible? bs)
  let (t, cs) ← restOfDate (if yy < 50 then 2000 + yy else 1900 + yy) cs
  let offset ← zoneOffset? cs
  some (t - offset)

/-- Takes up to three digits of a fraction behind a point. -/
def dropFraction : List Char → Option (List Char)
  | '.' :: cs =>
    let digits := cs.takeWhile Text.Digit
    if digits.isEmpty || 3 < digits.length then none else some (cs.drop digits.length)
  | cs => some cs

/-- Reads the form with four digits for the year. -/
def longTime? (bs : Bytes) : Option Int := do
  let (year, cs) ← fixedDigits 4 (← visible? bs)
  let (t, cs) ← restOfDate year cs
  if (← dropFraction cs) = ['Z'] then some t else none

/-- Takes a point in time. -/
def time : Reader Int := do
  let e ← element .tolerant
  let t? := if e.hasTag .tolerant utcTime then shortTime? e.content
    else if e.hasTag .tolerant generalizedTime then longTime? e.content
    else none
  match t? with
  | some t => pure t
  | none => failure

/-- A point in time: with two digits for the year where they are enough. -/
def writeTime (secs : Int) : Bytes :=
  let (year, month, day) := calendarDate (secs.fdiv 86400)
  let ofDay := (secs.fmod 86400).toNat
  let short := 1950 ≤ year && year < 2050
  let digits := Instant.padded 4 year.toNat ++ Instant.padded 2 month ++ Instant.padded 2 day ++
    Instant.padded 2 (ofDay / 3600) ++ Instant.padded 2 (ofDay / 60 % 60) ++
    Instant.padded 2 (ofDay % 60) ++ "Z"
  if short then write utcTime ((Text.encode digits).drop 2)
  else write generalizedTime (Text.encode digits)

end GatewayAgent.Asn1
