import GatewayAgent.Time.Instant

/-!
# The order of instants, and their range

A span that is too long to be added would also lead out of the range of the clock. So an instant
that a clock can hold has a later one just if a clock can hold that too (`add?_eq_ite`), and what
is reckoned from a later instant does not end earlier (`noLater_add?`).
-/

namespace GatewayAgent

namespace Instant

protected theorem le_refl (a : Instant) : a ≤ a := Int.le_refl a.nanos

protected theorem le_trans {a b c : Instant} (h : a ≤ b) (h' : b ≤ c) : a ≤ c := Int.le_trans h h'

protected theorem lt_of_lt_of_le {a b c : Instant} (h : a < b) (h' : b ≤ c) : a < c :=
  Int.lt_of_lt_of_le h h'

protected theorem not_lt {a b : Instant} : ¬a < b ↔ b ≤ a := Int.not_lt

theorem representable_zero : Representable ⟨0⟩ := by decide

/-- The longest span reaches beyond the range of the clock from anywhere in it. -/
theorem latest_lt_longestSpan : latest.nanos < earliest.nanos + longestSpan.nanos := by decide

/-- What an instant with a span on top is: the exact sum, if the span can be added and a clock can
hold the sum. -/
theorem add?_eq_some_iff {t e : Instant} {d : Duration} :
    t.add? d = some e ↔ d ≤ longestSpan ∧ e.nanos = t.nanos + d.nanos ∧ e.Representable := by
  rw [add?, Option.ite_none_right_eq_some, Option.some_inj]
  constructor
  · rintro ⟨⟨hshort, hend⟩, rfl⟩
    exact ⟨hshort, rfl, hend⟩
  · rintro ⟨hshort, hsum, hend⟩
    obtain rfl : t.later d = e := congrArg Instant.mk hsum.symm
    exact ⟨⟨hshort, hend⟩, rfl⟩

theorem add?_eq_ite {t : Instant} (ht : t.Representable) (d : Duration) :
    t.add? d = if (t.later d).Representable then some (t.later d) else none := by
  have hspan : (t.later d).Representable → d ≤ longestSpan := by
    intro hlater
    have hfirst : earliest.nanos ≤ t.nanos := ht.1
    have hlast : t.nanos + d.nanos ≤ latest.nanos := hlater.2
    -- From the first instant, the longest span already leads past the last one.
    have hlong := latest_lt_longestSpan
    change d.nanos ≤ longestSpan.nanos
    omega
  simp only [add?, and_iff_right_of_imp hspan]

/-- One end is not after another, where no end at all is after every other. -/
def NoLater (e e' : Option Instant) : Prop := ∀ t', e' = some t' → ∃ t, e = some t ∧ t ≤ t'

/-- The same span from a later instant does not end earlier. -/
theorem noLater_add? {a b : Instant} (ha : a.Representable) (hb : b.Representable) (h : a ≤ b)
    (d : Duration) : NoLater (a.add? d) (b.add? d) := by
  intro t' ht'
  rw [add?_eq_ite hb, Option.ite_none_right_eq_some] at ht'
  obtain ⟨hend, ht'⟩ := ht'
  cases ht'
  have hle : a.later d ≤ b.later d := Int.add_le_add_right h _
  -- In between the first instant and the later end, a clock can hold everything.
  have hfirst : earliest ≤ a.later d := Instant.le_trans ha.1 (Int.le_add_of_nonneg_right (by simp))
  refine ⟨a.later d, ?_, hle⟩
  rw [add?_eq_ite ha, if_pos ⟨hfirst, Instant.le_trans hle hend.2⟩]

end Instant

end GatewayAgent
