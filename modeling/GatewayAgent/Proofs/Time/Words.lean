import GatewayAgent.Proofs.Time.Instant
import Mathlib.Algebra.Order.Ring.Int

/-!
# Reckoning with clocks in words

A machine has a span in words: seconds in one of 64 bits, and nanoseconds (`WordSpan`). It has a
time in words too: the day, the second of the day and the nanosecond (`ClockTime`). The span is
added to the time part by part, with a carry of nanoseconds into seconds and one of seconds into
days.

In words a long span could turn negative, and a sum could lose its leading bits. Two checks stand
against that: a span is read as one with a sign only up to the longest one, and a day is put into a
word only if a clock can hold it. With them nothing is lost, and the sum in words is the one that
`Instant.add?` gives (`reckon_eq_add?`).
-/

namespace GatewayAgent

/-! ### Spans and times in words -/

/-- A span in words, as it is configured: seconds without a sign, and nanoseconds below a second. -/
structure WordSpan where
  secs : UInt64
  nanos : UInt32
  nanos_lt : nanos.toNat < 1000000000 := by decide

/-- The span that the words stand for. -/
def WordSpan.span (w : WordSpan) : Duration := .ofSecs w.secs.toNat w.nanos.toNat

/-- A span in words, as it is added to a time: seconds with a sign, and nanoseconds. -/
structure SignedSpan where
  secs : Int64
  nanos : Int32

/-- The span with a sign, unless it is longer than `2 ^ 63 - 1` milliseconds. The seconds are
compared before they are read as a word with a sign. -/
def WordSpan.signed? (w : WordSpan) : Option SignedSpan :=
  if 9223372036854775 < w.secs ∨ w.secs = 9223372036854775 ∧ 807000000 < w.nanos then none
  else some ⟨w.secs.toInt64, w.nanos.toInt32⟩

/-- A time as a clock has it in words: the day, counted from 1970-01-01, the second of the day and
the nanosecond of the second. -/
structure ClockTime where
  day : Int32
  second : Int32
  nano : Int32

namespace ClockTime

/-- The first day that a clock can hold. -/
def firstDay : Int := dayNumber (-262143) 1 1

/-- The last day that a clock can hold. -/
def lastDay : Int := dayNumber 262142 12 31

/-- The instant that a clock shows. -/
def instant (t : ClockTime) : Instant :=
  ⟨(t.day.toInt * 86400 + t.second.toInt) * 1000000000 + t.nano.toInt⟩

/-- What clocks show for an instant. -/
def ofInstant (t : Instant) : ClockTime where
  day := Int32.ofInt (t.nanos / 86400000000000)
  second := Int32.ofInt (t.nanos / 1000000000 % 86400)
  nano := Int32.ofInt (t.nanos % 1000000000)

/-- The nanoseconds of a sum, and the second to carry. -/
def addNanos (a b : Int32) : Int64 × Int32 :=
  if a + b < 1000000000 then (0, a + b) else (1, a + b - 1000000000)

/-- The day of a sum, and the second of that day. -/
def addSeconds (t : ClockTime) (secs : Int64) : Int64 × Int64 :=
  let total := t.second.toInt64 + secs
  (t.day.toInt64 + total / 86400, total % 86400)

/-- The time a span later, if a clock can hold its day. -/
def plus? (t : ClockTime) (s : SignedSpan) : Option ClockTime :=
  let (carry, nano) := addNanos t.nano s.nanos
  let (day, second) := t.addSeconds (s.secs + carry)
  if Int64.ofInt firstDay ≤ day ∧ day ≤ Int64.ofInt lastDay then
    some ⟨day.toInt32, second.toInt32, nano⟩
  else none

/-- The parts of a time are in their ranges. -/
structure Regular (t : ClockTime) : Prop where
  firstDay_le : firstDay ≤ t.day.toInt
  le_lastDay : t.day.toInt ≤ lastDay
  second_nonneg : 0 ≤ t.second.toInt
  second_lt : t.second.toInt < 86400
  nano_nonneg : 0 ≤ t.nano.toInt
  nano_lt : t.nano.toInt < 1000000000

end ClockTime

/-! ### Spans -/

namespace WordSpan

variable {w : WordSpan} {s : SignedSpan}

theorem nanos_span (w : WordSpan) :
    w.span.nanos = w.secs.toNat * 1000000000 + w.nanos.toNat := rfl

/-- The comparisons word by word find out whether the span is too long. -/
theorem signed?_eq_none_iff : w.signed? = none ↔ ¬w.span ≤ Instant.longestSpan := by
  have hnanos := w.nanos_lt
  have hle : w.span ≤ Instant.longestSpan ↔
      w.secs.toNat * 1000000000 + w.nanos.toNat ≤ 9223372036854775807000000 := Iff.rfl
  rw [hle, signed?]
  simp only [ite_eq_left_iff, reduceCtorEq, imp_false, not_not, UInt64.lt_iff_toNat_lt,
    UInt32.lt_iff_toNat_lt, ← UInt64.toNat_inj, UInt64.reduceToNat, UInt32.reduceToNat]
  omega

/-- Up to the longest span, the words with a sign have the values of those without. -/
theorem toInt_of_signed? (h : w.signed? = some s) :
    s.secs.toInt = w.secs.toNat ∧ s.nanos.toInt = w.nanos.toNat ∧
      w.secs.toNat ≤ 9223372036854775 := by
  have hnanos := w.nanos_lt
  rw [signed?, Option.ite_none_left_eq_some] at h
  obtain ⟨hshort, h⟩ := h
  obtain rfl := Option.some.inj h
  have hsecs : w.secs.toNat ≤ 9223372036854775 := by
    rw [not_or, UInt64.not_lt, UInt64.le_iff_toNat_le] at hshort
    exact hshort.1
  have hsecsDouble : 2 * w.secs.toNat < 2 ^ 64 := by omega
  have hnanosDouble : 2 * w.nanos.toNat < 2 ^ 32 := by omega
  exact ⟨BitVec.toInt_eq_toNat_of_lt hsecsDouble, BitVec.toInt_eq_toNat_of_lt hnanosDouble, hsecs⟩

end WordSpan

/-! ### Times -/

namespace ClockTime

/-- A clock can hold an instant exactly if it can hold its day. -/
theorem representable_iff {day second nano : Int} (hsecond : 0 ≤ second ∧ second < 86400)
    (hnano : 0 ≤ nano ∧ nano < 1000000000) :
    Instant.Representable ⟨(day * 86400 + second) * 1000000000 + nano⟩ ↔
      firstDay ≤ day ∧ day ≤ lastDay := by
  have hearliest : Instant.earliest.nanos = firstDay * 86400 * 1000000000 := by decide
  have hlatest : Instant.latest.nanos = (lastDay * 86400 + 86399) * 1000000000 + 999999999 := by
    decide
  change Instant.earliest.nanos ≤ (day * 86400 + second) * 1000000000 + nano ∧
    (day * 86400 + second) * 1000000000 + nano ≤ Instant.latest.nanos ↔ _
  rw [hearliest, hlatest]
  omega

theorem firstDay_eq : firstDay = -96465292 := by decide

theorem lastDay_eq : lastDay = 95026236 := by decide

theorem toInt_firstDay : (Int64.ofInt firstDay).toInt = firstDay := by decide

theorem toInt_lastDay : (Int64.ofInt lastDay).toInt = lastDay := by decide

/-- What clocks show for an instant that they can hold is that instant. -/
theorem regular_ofInstant {t : Instant} (ht : t.Representable) :
    (ofInstant t).Regular ∧ (ofInstant t).instant = t := by
  have hsplit : t = ⟨(t.nanos / 86400000000000 * 86400 + t.nanos / 1000000000 % 86400) *
      1000000000 + t.nanos % 1000000000⟩ := congrArg Instant.mk (by omega)
  have hday := (representable_iff ⟨by omega, by omega⟩ ⟨by omega, by omega⟩).mp (hsplit ▸ ht)
  rw [firstDay_eq, lastDay_eq] at hday
  -- The remainders fit into their words by themselves, the day because a clock can hold it.
  have hdayWord : (ofInstant t).day.toInt = t.nanos / 86400000000000 :=
    Int32.toInt_ofInt_of_le (by omega) (by omega)
  have hsecondWord : (ofInstant t).second.toInt = t.nanos / 1000000000 % 86400 :=
    Int32.toInt_ofInt_of_le (by omega) (by omega)
  have hnanoWord : (ofInstant t).nano.toInt = t.nanos % 1000000000 :=
    Int32.toInt_ofInt_of_le (by omega) (by omega)
  refine ⟨⟨?_, ?_, by omega, by omega, by omega, by omega⟩, ?_⟩
  · rw [hdayWord, firstDay_eq]
    exact hday.1
  · rw [hdayWord, lastDay_eq]
    exact hday.2
  · rw [instant, hdayWord, hsecondWord, hnanoWord]
    exact hsplit.symm

theorem addNanos_eq {a b : Int32} (ha : 0 ≤ a.toInt ∧ a.toInt < 1000000000)
    (hb : 0 ≤ b.toInt ∧ b.toInt < 1000000000) :
    ∃ carry nano, addNanos a b = (carry, nano) ∧
      carry.toInt * 1000000000 + nano.toInt = a.toInt + b.toInt ∧
      (0 ≤ carry.toInt ∧ carry.toInt ≤ 1) ∧ 0 ≤ nano.toInt ∧ nano.toInt < 1000000000 := by
  -- Two parts of a second come to less than `2 ^ 31` nanoseconds.
  have hsum : (a + b).toInt = a.toInt + b.toInt := by
    rw [Int32.toInt_add, Int.bmod_eq_of_le (by omega) (by omega)]
  have hsecond : (1000000000 : Int32).toInt = 1000000000 := by decide
  by_cases hlt : a + b < 1000000000
  · have hlt' : (a + b).toInt < 1000000000 := Int32.lt_iff_toInt_lt.mp hlt
    refine ⟨0, a + b, if_pos hlt, ?_, by decide, by omega, hlt'⟩
    rw [Int64.toInt_zero]
    omega
  · have hle : 1000000000 ≤ (a + b).toInt := by
      rw [Int32.lt_iff_toInt_lt, hsecond] at hlt
      omega
    have hrest : (a + b - 1000000000).toInt = (a + b).toInt - 1000000000 := by
      rw [Int32.toInt_sub, hsecond, Int.bmod_eq_of_le (by omega) (by omega)]
    refine ⟨1, a + b - 1000000000, if_neg hlt, ?_, by decide, by omega, by omega⟩
    rw [hrest, hsum, Int64.toInt_one]
    omega

theorem addSeconds_eq {t : ClockTime} (ht : t.Regular) (secs : Int64)
    (hsecs : 0 ≤ secs.toInt ∧ secs.toInt ≤ 9223372036854776) :
    ∃ day second, t.addSeconds secs = (day, second) ∧
      day.toInt * 86400 + second.toInt = t.day.toInt * 86400 + t.second.toInt + secs.toInt ∧
      0 ≤ second.toInt ∧ second.toInt < 86400 := by
  have hday : t.day.toInt64.toInt = t.day.toInt := Int32.toInt_toInt64 t.day
  have hsecond : t.second.toInt64.toInt = t.second.toInt := Int32.toInt_toInt64 t.second
  have hlow := t.day.le_toInt
  have hhigh := t.day.toInt_lt
  have hnonneg := ht.second_nonneg
  have hlt := ht.second_lt
  let total := t.second.toInt64 + secs
  -- The seconds of the longest span and of a day are together far from `2 ^ 63`.
  have htotal : total.toInt = t.second.toInt + secs.toInt := by
    rw [Int64.toInt_add, hsecond, Int.bmod_eq_of_le (by omega) (by omega)]
  have hdays : (total / 86400).toInt = total.toInt / 86400 := by
    rw [Int64.toInt_div_of_ne_right _ _ (by decide)]
    exact Int.tdiv_eq_ediv_of_nonneg (by omega)
  have hrest : (total % 86400).toInt = total.toInt % 86400 := by
    rw [Int64.toInt_mod]
    exact Int.tmod_eq_emod_of_nonneg (by omega)
  have hsum : (t.day.toInt64 + total / 86400).toInt = t.day.toInt + total.toInt / 86400 := by
    rw [Int64.toInt_add, hday, hdays, Int.bmod_eq_of_le (by omega) (by omega)]
  refine ⟨t.day.toInt64 + total / 86400, total % 86400, rfl, ?_, by omega, by omega⟩
  rw [hsum, hrest]
  omega

/-- The sum in words is the sum of the instant and the span, and it is given exactly if a clock can
hold it. -/
theorem plus?_eq {t : ClockTime} (ht : t.Regular) {w : WordSpan} {s : SignedSpan}
    (hs : w.signed? = some s) :
    (t.plus? s).map instant =
      if (t.instant.later w.span).Representable then some (t.instant.later w.span) else none := by
  obtain ⟨hsecs, hnanos, hlong⟩ := w.toInt_of_signed? hs
  have hnanosLt := w.nanos_lt
  obtain ⟨carry, nano, hadd, hnanoSum, hcarry, hnanoRange⟩ :=
    addNanos_eq (a := t.nano) (b := s.nanos) ⟨ht.nano_nonneg, ht.nano_lt⟩ (by omega)
  have hcarried : (s.secs + carry).toInt = w.secs.toNat + carry.toInt := by
    rw [Int64.toInt_add, hsecs, Int.bmod_eq_of_le (by omega) (by omega)]
  obtain ⟨day, second, hadd', hdaySum, hsecondRange⟩ :=
    t.addSeconds_eq ht (s.secs + carry) (by omega)
  have hlater : t.instant.later w.span =
      ⟨(day.toInt * 86400 + second.toInt) * 1000000000 + nano.toInt⟩ := by
    have hspan := w.nanos_span
    refine congrArg Instant.mk ?_
    change (t.day.toInt * 86400 + t.second.toInt) * 1000000000 + t.nano.toInt + w.span.nanos = _
    omega
  have hplus : t.plus? s =
      if firstDay ≤ day.toInt ∧ day.toInt ≤ lastDay then
        some ⟨day.toInt32, second.toInt32, nano⟩ else none := by
    rw [plus?, hadd]
    simp only [hadd', Int64.le_iff_toInt_le, toInt_firstDay, toInt_lastDay]
  rw [hplus, hlater, if_congr (representable_iff hsecondRange hnanoRange) rfl rfl]
  split_ifs with hrange
  · -- A day that a clock can hold is a word of 32 bits.
    rw [firstDay_eq, lastDay_eq] at hrange
    have hdayWord : day.toInt32.toInt = day.toInt := by
      rw [Int64.toInt_toInt32, Int.bmod_eq_of_le (by omega) (by omega)]
    have hsecondWord : second.toInt32.toInt = second.toInt := by
      rw [Int64.toInt_toInt32, Int.bmod_eq_of_le (by omega) (by omega)]
    rw [Option.map_some, instant, hdayWord, hsecondWord]
  · rfl

end ClockTime

/-- The instant that a machine comes to when it adds a span to what its clock shows. -/
def reckon (now : Instant) (w : WordSpan) : Option Instant :=
  (w.signed?.bind (ClockTime.ofInstant now).plus?).map ClockTime.instant

/-- In words, no sum comes out otherwise. -/
theorem reckon_eq_add? {now : Instant} (hnow : now.Representable) (w : WordSpan) :
    reckon now w = now.add? w.span := by
  obtain ⟨hregular, hinstant⟩ := ClockTime.regular_ofInstant hnow
  rw [reckon, Instant.add?]
  cases hs : w.signed? with
  | none => rw [if_neg fun h => w.signed?_eq_none_iff.mp hs h.1]; rfl
  | some s =>
    have hshort : w.span ≤ Instant.longestSpan := by
      by_contra hlong
      rw [w.signed?_eq_none_iff.mpr hlong] at hs
      cases hs
    rw [Option.bind_some, ClockTime.plus?_eq hregular hs, hinstant]
    simp only [hshort, true_and]

end GatewayAgent
