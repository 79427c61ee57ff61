import GatewayAgent.Config.Basic
import GatewayAgent.Proofs.Session.Lifetime
import GatewayAgent.Proofs.Session.Provenance
import GatewayAgent.Proofs.Time.Words

/-!
# When sessions expire

With a time to live, a write at `now` gives a session until `now` plus the time to live, or for good
if that is no time that a clock can hold. The end is exact, in words too, and a write at a later
reading of the clock gives a session no less (`expiry_exact_and_monotone`). That it can be for good
does not stand against this: of two ends, the later one is the first to be beyond what a clock can
hold.
-/

namespace GatewayAgent

/-- With an end that is not after that of another session, a session expires no later. -/
theorem Session.isExpiredAt_of_noLater {s t : Session}
    (h : Instant.NoLater s.expiresAt t.expiresAt) {clock : Instant}
    (ht : t.isExpiredAt clock = true) : s.isExpiredAt clock = true := by
  obtain ⟨e', he', hlt⟩ := isExpiredAt_eq_true_iff.mp ht
  obtain ⟨e, he, hle⟩ := h e' he'
  exact isExpiredAt_eq_true_iff.mpr ⟨e, he, Int.lt_of_le_of_lt hle hlt⟩

namespace Registry

variable {ttl : Duration} {x y : Event} {id id' : String}

/-- What is written is given the time to live. -/
theorem Event.Writes.exists_stamped (httl : x.found.ttl = some ttl) (h : x.Writes id) :
    ∃ s, x.left.sessions.find? id = some s ∧ s.expiresAt = x.step.now.add? ttl := by
  cases x.effect h.id_ne with
  | written hleft hexpires hwrites =>
    refine ⟨_, hleft, ?_⟩
    rw [hexpires (by rw [httl]; rfl), expiryFrom_of_ttl_eq_some httl]
  | kept hnot hleft hremoves => exact absurd h hnot
  | gone hnot hleft hfound hwhy => exact absurd h hnot

/-- Of two writes, the one with the later reading of the clock leaves a session that expires no
earlier. -/
theorem Event.Writes.noLater (httlx : x.found.ttl = some ttl) (httly : y.found.ttl = some ttl)
    (hx : x.Writes id) (hy : y.Writes id') (hle : x.step.now ≤ y.step.now) :
    ∃ s t, x.left.sessions.find? id = some s ∧ y.left.sessions.find? id' = some t ∧
      Instant.NoLater s.expiresAt t.expiresAt := by
  obtain ⟨s, hs, hsexpires⟩ := hx.exists_stamped httlx
  obtain ⟨t, ht, htexpires⟩ := hy.exists_stamped httly
  refine ⟨s, t, hs, ht, ?_⟩
  rw [hsexpires, htexpires]
  exact Instant.noLater_add? x.step.representable y.step.representable hle ttl

/-- **Expiry is exact and monotone.** With a time to live of any length that words can hold, the
end that is given at `now` is `now` plus the time to live if that length can be added and a clock
can hold the sum, and otherwise there is no end. So it is after `now`, and reckoning in words comes
to the same. From a later reading it is no earlier: of any two sessions that a run writes, the one
that is written at the later reading does not expire before the other one. -/
theorem expiry_exact_and_monotone (ttl : WordSpan) (hpos : 0 < ttl.span.nanos)
    (run : List Step) :
    let first := new (some ttl.span)
    let r := first.after run
    (∀ now e, r.expiryFrom now = some e ↔
      ttl.span ≤ Instant.longestSpan ∧ e.nanos = now.nanos + ttl.span.nanos ∧ e.Representable) ∧
    (∀ now e, r.expiryFrom now = some e → now < e) ∧
    (∀ now : Instant, now.Representable → r.expiryFrom now = reckon now ttl) ∧
    (∀ now now' : Instant, now.Representable → now'.Representable → now ≤ now' →
      Instant.NoLater (r.expiryFrom now) (r.expiryFrom now')) ∧
    ∀ x ∈ first.events run, ∀ y ∈ first.events run, ∀ id id', x.Writes id → y.Writes id' →
      x.step.now ≤ y.step.now →
      ∃ s t, x.left.sessions.find? id = some s ∧ y.left.sessions.find? id' = some t ∧
        Instant.NoLater s.expiresAt t.expiresAt ∧
        ∀ clock, t.isExpiredAt clock = true → s.isExpiredAt clock = true := by
  intro first r
  have hfirst : first.ttl = some ttl.span := ttl_new hpos
  -- Of a registry only the time to live counts here, and no step changes that.
  have hexpiry (now : Instant) : r.expiryFrom now = now.add? ttl.span :=
    expiryFrom_of_ttl_eq_some ((first.ttl_after run).trans hfirst) now
  simp only [hexpiry]
  refine ⟨fun now e => Instant.add?_eq_some_iff, fun now e he => ?_,
    fun now hnow => (reckon_eq_add? hnow ttl).symm,
    fun now now' hnow hnow' hle => Instant.noLater_add? hnow hnow' hle ttl.span,
    fun x hx y hy id id' hwrite hwrite' hle => ?_⟩
  · obtain ⟨-, hsum, -⟩ := Instant.add?_eq_some_iff.mp he
    change now.nanos < e.nanos
    omega
  · obtain ⟨s, t, hs, ht, hnolater⟩ := hwrite.noLater ((ttl_found hx).trans hfirst)
      ((ttl_found hy).trans hfirst) hwrite' hle
    exact ⟨s, t, hs, ht, hnolater, fun clock => Session.isExpiredAt_of_noLater hnolater⟩

/-- The longest time to live with an end that is written at the beginning of 1970. -/
def untilLatest : WordSpan := ⟨8210266876799, 999999999, by decide⟩

/-- Two sessions are recorded, a nanosecond apart. -/
def twoRecorded : List Step :=
  [{ now := ⟨0⟩, op := .add { id := "s1", username := "alice" },
      representable := Instant.representable_zero },
    { now := ⟨1⟩, op := .add { id := "s2", username := "bob" } }]

/-- The first session is live up to the last instant that a clock can hold, the second one for
good. -/
theorem second_recorded_outlasts_first :
    let first := new (some untilLatest.span)
    let r := first.after twoRecorded
    r.expiryFrom ⟨0⟩ = some Instant.latest ∧ r.expiryFrom ⟨1⟩ = none ∧
      reckon ⟨0⟩ untilLatest = some Instant.latest ∧
      Instant.NoLater (r.expiryFrom ⟨0⟩) (r.expiryFrom ⟨1⟩) ∧
      ∃ s t, (first.after (twoRecorded.take 1)).sessions.find? "s1" = some s ∧
        r.sessions.find? "s2" = some t ∧ Instant.NoLater s.expiresAt t.expiresAt := by
  intro first r
  obtain ⟨hexact, -, hreckon, hmono, hwrites⟩ :=
    expiry_exact_and_monotone untilLatest (by decide) twoRecorded
  have hlatest : r.expiryFrom ⟨0⟩ = some Instant.latest := (hexact _ _).mpr (by decide)
  refine ⟨hlatest, ?_, (hreckon _ (by decide)).symm.trans hlatest,
    hmono _ _ (by decide) (by decide) (by decide), ?_⟩
  · rw [Option.eq_none_iff_forall_ne_some]
    intro e he
    obtain ⟨-, hsum, -, hend⟩ := (hexact _ _).mp he
    have hpast : Instant.latest.nanos < 1 + untilLatest.span.nanos := by decide
    exact absurd hend (Int.not_le.mpr (hsum ▸ hpast))
  · obtain ⟨s, t, hs, ht, hnolater, -⟩ := hwrites _ List.mem_cons_self _
      (List.mem_cons_of_mem _ List.mem_cons_self) "s1" "s2" (.inl rfl) (.inl rfl) (by decide)
    exact ⟨s, t, hs, ht, hnolater⟩

/-- The longest time to live that can be configured has no end. -/
example : (new (SessionOptions.ttl { ttlSecs := 18446744073709551615 })).expiryFrom ⟨0⟩ = none := by
  decide

end Registry

end GatewayAgent
