import GatewayAgent.Proofs.Session.Lifetime
import GatewayAgent.Proofs.Session.Provenance
import Mathlib.Logic.Function.Basic

/-!
# Activity and the clock

A call reads the clock before it waits for the lock of the registry. So even if the clock never goes
back, calls may be executed in another order than they have read it in. `Calls` is a registry
together with the calls on their way to it; what its history records is a run of the registry whose
readings are in no order (`Calls.history_eq_events`).

What a successful update leaves is as of its own reading (`Event.Updates.left_eq`). With a time to
live, the updates of a session therefore prolong it just as long as they are executed in the order
of their readings, and only an update that was on its way can come too late
(`prolonged_iff_in_order`).
-/

namespace GatewayAgent

namespace Registry

/-! ### Calls on their way -/

/-- A registry, and the calls that have read the clock and wait for the lock. -/
structure Calls where
  registry : Registry
  /-- What the clock has shown last. -/
  clock : Instant
  /-- What a call is to execute, with its reading of the clock. -/
  waiting : Nat → Option Step
  /-- What has been executed, in this order. -/
  history : List Event

/-- What happens to a call. -/
inductive CallEvent where
  /-- The call reads the clock, and then waits for the lock. -/
  | arrive (call : Nat) (step : Step)
  /-- The call gets the lock and is executed. -/
  | execute (call : Nat)

namespace Calls

/-- Nobody waits yet. -/
def start (r : Registry) (clock : Instant) : Calls where
  registry := r
  clock := clock
  waiting _ := none
  history := []

/-- A call arrives. -/
def arrive (c : Calls) (call : Nat) (step : Step) : Calls :=
  { c with clock := step.now, waiting := Function.update c.waiting call (some step) }

/-- A call is executed, by the reading that it brings. -/
def execute (c : Calls) (call : Nat) (step : Step) : Calls where
  registry := (c.registry.perform step.now step.op).1
  clock := c.clock
  waiting := Function.update c.waiting call none
  history := c.history ++ [⟨step, c.registry⟩]

/-- What an event makes of the calls, if it is possible. The clock never goes back. -/
def step (c : Calls) : CallEvent → Option Calls
  | .arrive call step =>
    if c.clock ≤ step.now ∧ (c.waiting call).isNone then some (c.arrive call step) else none
  | .execute call => (c.waiting call).map (c.execute call)

/-- What a run of events makes of the calls. -/
def run (c : Calls) (es : List CallEvent) : Option Calls := es.foldlM step c

/-- What holds at first and is kept whenever a call arrives or is executed holds after every run. -/
theorem run_induction {P : Calls → Prop} {c c' : Calls} {es : List CallEvent}
    (h : c.run es = some c') (hc : P c)
    (harrive : ∀ m call step, P m → m.clock ≤ step.now → P (m.arrive call step))
    (hexecute : ∀ m call step, P m → m.waiting call = some step → P (m.execute call step)) :
    P c' := by
  induction es generalizing c with
  | nil =>
    cases h
    exact hc
  | cons e es ih =>
    obtain ⟨m, hstep, hrest⟩ := Option.bind_eq_some_iff.mp h
    refine ih hrest ?_
    cases e with
    | arrive call step =>
      rw [Calls.step, Option.ite_none_right_eq_some] at hstep
      obtain ⟨⟨hclock, -⟩, heq⟩ := hstep
      cases heq
      exact harrive c call step hc hclock
    | execute call =>
      obtain ⟨step, hwaiting, rfl⟩ := Option.map_eq_some_iff.mp hstep
      exact hexecute c call step hc hwaiting

/-- Whatever waits for the lock satisfies `P`. -/
def AllWaiting (P : Step → Prop) (c : Calls) : Prop :=
  ∀ call step, c.waiting call = some step → P step

variable {P : Step → Prop} {r : Registry} {clock : Instant} {c c' : Calls} {es : List CallEvent}
  {call : Nat} {step : Step}

/-- Whatever waits satisfies what follows from what it satisfies. -/
theorem AllWaiting.imp {Q : Step → Prop} (h : c.AllWaiting P) (himp : ∀ step, P step → Q step) :
    c.AllWaiting Q := fun call step hwaiting => himp step (h call step hwaiting)

/-- Whatever waits satisfies what the call that arrives satisfies as well. -/
theorem AllWaiting.arrive (h : c.AllWaiting P) (hstep : P step) :
    (c.arrive call step).AllWaiting P := by
  intro call' step' hwaiting
  change Function.update c.waiting call (some step) call' = some step' at hwaiting
  rw [Function.update_apply] at hwaiting
  split_ifs at hwaiting
  · cases hwaiting
    exact hstep
  · exact h call' step' hwaiting

/-- Who waits when a call is executed has waited before. -/
theorem AllWaiting.execute (h : c.AllWaiting P) : (c.execute call step).AllWaiting P := by
  intro call' step' hwaiting
  change Function.update c.waiting call none call' = some step' at hwaiting
  rw [Function.update_apply, Option.ite_none_left_eq_some] at hwaiting
  exact h call' step' hwaiting.2

/-- What the calls have executed is a run of the registry. -/
theorem history_eq_events (h : (start r clock).run es = some c) :
    ∃ steps, c.history = r.events steps ∧ c.registry = r.after steps := by
  refine run_induction (P := fun m => ∃ steps, m.history = r.events steps ∧
    m.registry = r.after steps) h ⟨[], rfl, rfl⟩ (fun m call step hm _ => hm) ?_
  rintro m call step ⟨steps, hhistory, hregistry⟩ -
  refine ⟨steps ++ [step], ?_, ?_⟩
  · rw [events_snoc, ← hhistory, ← hregistry]
    rfl
  · rw [after_snoc, ← hregistry]
    rfl

/-- No reading is ahead of the clock. -/
structure Behind (c : Calls) : Prop where
  waiting : c.AllWaiting fun step => step.now ≤ c.clock
  history : ∀ x ∈ c.history, x.step.now ≤ c.clock

/-- In every run, no reading is ahead of the clock. -/
theorem Behind.run (h : (start r clock).run es = some c) : Behind c := by
  refine run_induction (P := Behind) h ?_ (fun m call step hm hclock => ?_)
    fun m call step hm hwaiting => ?_
  · exact ⟨fun call step hwaiting => absurd hwaiting.symm (Option.some_ne_none step),
      fun x hx => absurd hx List.not_mem_nil⟩
  · -- The clock goes on to the reading of the call that arrives.
    have hle : ∀ t : Instant, t ≤ m.clock → t ≤ step.now := fun t ht => Instant.le_trans ht hclock
    exact ⟨(hm.waiting.imp fun step' => hle step'.now).arrive (Instant.le_refl _),
      fun x hx => hle _ (hm.history x hx)⟩
  · refine ⟨hm.waiting.execute, List.forall_mem_append.mpr ⟨hm.history, ?_⟩⟩
    exact List.forall_mem_singleton.mpr (hm.waiting call step hwaiting)

/-- No update of the session waits for the lock. -/
def NoneWaits (id : String) (c : Calls) : Prop :=
  c.AllWaiting fun step => step.op.changed? ≠ some id

/-- What the calls do from `c` on. An update that did not wait then reads the clock later. -/
structure Follows (id : String) (c c' : Calls) (later : List Event) : Prop where
  clock : c.clock ≤ c'.clock
  history : c'.history = c.history ++ later
  waiting : c'.AllWaiting fun step => step.op.changed? = some id → c.clock ≤ step.now
  readings : ∀ y ∈ later, y.step.op.changed? = some id → c.clock ≤ y.step.now

/-- Where no update of a session waits, every update of it that is executed from then on reads the
clock later. -/
theorem Follows.run {id : String} (hnone : c.NoneWaits id) (h : c.run es = some c') :
    ∃ later, Follows id c c' later := by
  refine run_induction (P := fun m => ∃ later, Follows id c m later) h ?_ ?_ ?_
  · -- Who waits in `c` may have read the clock before, but is no update of the session.
    have hwaiting : c.AllWaiting fun step => step.op.changed? = some id → c.clock ≤ step.now :=
      hnone.imp fun step hne hop => absurd hop hne
    exact ⟨[], Instant.le_refl _, (List.append_nil _).symm, hwaiting,
      fun y hy => absurd hy List.not_mem_nil⟩
  · rintro m call step ⟨later, hm⟩ hclock
    have hle : c.clock ≤ step.now := Instant.le_trans hm.clock hclock
    exact ⟨later, hle, hm.history, hm.waiting.arrive fun _ => hle, hm.readings⟩
  · rintro m call step ⟨later, hm⟩ hwaiting
    refine ⟨later ++ [⟨step, m.registry⟩], hm.clock, ?_, hm.waiting.execute, ?_⟩
    · rw [← List.append_assoc, ← hm.history]
      rfl
    · refine List.forall_mem_append.mpr ⟨hm.readings, ?_⟩
      exact List.forall_mem_singleton.mpr (hm.waiting call step hwaiting)

end Calls

/-! ### What an update leaves -/

namespace Event

variable {id : String} {ttl : Duration} {x y : Event}

/-- A successful update commits a draft. -/
theorem Updates.commits (h : x.Updates id) : ∃ draft, x.Commits id draft := by
  obtain ⟨⟨now, op, hnow⟩, r⟩ := x
  obtain ⟨hop, hout⟩ := h
  have hcommits : ∀ {id' change}, op.change? = some (id', change) → id' = id →
      (∃ r', r.update now id' change = .ok r') →
        ∃ draft, Commits id draft ⟨⟨now, op, hnow⟩, r⟩ := by
    rintro id' change hchange? rfl ⟨r', hr'⟩
    obtain ⟨hid, s, draft, hlive, hchange, -⟩ := update_eq_ok_iff.mp hr'
    exact ⟨draft, change, s, hchange?, hid, hlive, hchange⟩
  cases op with
  | update id' change => exact hcommits rfl (Option.some.inj hop) (ok_of_settle hout)
  | updateTraffic id' bytesIn bytesOut =>
    exact hcommits rfl (Option.some.inj hop) (ok_of_settle hout)
  | _ => exact absurd hop (by simp [Operation.changed?])

/-- What a successful update leaves is as of its reading of the clock. -/
theorem Updates.left_eq (httl : x.found.ttl = some ttl) (h : x.Updates id) :
    ∃ s, x.left.sessions.find? id = some s ∧ s.lastActivity = some x.step.now ∧
      s.expiresAt = x.step.now.add? ttl := by
  obtain ⟨draft, hdraft⟩ := h.commits
  refine ⟨_, hdraft.find?_left, lastActivity_commit .., ?_⟩
  rw [expiresAt_commit (by rw [httl]; rfl), expiryFrom_of_ttl_eq_some httl]

/-- What `y` leaves of the session was active no earlier than what `x` has left, and expires no
earlier. -/
def Prolonged (id : String) (x y : Event) : Prop :=
  ∃ s t, x.left.sessions.find? id = some s ∧ y.left.sessions.find? id = some t ∧
    (∃ a b, s.lastActivity = some a ∧ t.lastActivity = some b ∧ a ≤ b) ∧
    Instant.NoLater s.expiresAt t.expiresAt

/-- A session is prolonged by the second of two updates exactly if that has read the clock no
earlier. -/
theorem prolonged_iff (hx : x.found.ttl = some ttl) (hy : y.found.ttl = some ttl)
    (hxid : x.Updates id) (hyid : y.Updates id) :
    Prolonged id x y ↔ x.step.now ≤ y.step.now := by
  obtain ⟨s, hs, hsactive, hsexpires⟩ := hxid.left_eq hx
  obtain ⟨t, ht, htactive, htexpires⟩ := hyid.left_eq hy
  constructor
  · rintro ⟨s', t', hs', ht', ⟨a, b, ha, hb, hle⟩, -⟩
    obtain rfl : s = s' := Option.some.inj (hs.symm.trans hs')
    obtain rfl : t = t' := Option.some.inj (ht.symm.trans ht')
    obtain rfl : x.step.now = a := Option.some.inj (hsactive.symm.trans ha)
    obtain rfl : y.step.now = b := Option.some.inj (htactive.symm.trans hb)
    exact hle
  · intro hle
    refine ⟨s, t, hs, ht, ⟨_, _, hsactive, htactive, hle⟩, ?_⟩
    rw [hsexpires, htexpires]
    exact Instant.noLater_add? x.step.representable y.step.representable hle ttl

end Event

/-! ### Activity -/

/-- Any two successful updates of the session, in the order in which they were executed, are related
by `R`. -/
def AcrossUpdates (id : String) (R : Event → Event → Prop) (l : List Event) : Prop :=
  l.Pairwise fun x y => x.Updates id → y.Updates id → R x y

/-- **Activity.** With a time to live, every update of a session leaves it active no earlier and
expiring no earlier than the updates before it, exactly if the updates were executed in the order in
which they have read the clock. That is for calls that overlap to see to: when no update is on its
way, whatever arrives from then on prolongs what the updates so far have left. -/
theorem prolonged_iff_in_order {ttl : Duration} {r : Registry} {clock : Instant} {c : Calls}
    {es : List CallEvent} (httl : r.ttl = some ttl)
    (h : (Calls.start r clock).run es = some c) (id : String) :
    (AcrossUpdates id (Event.Prolonged id) c.history ↔
      AcrossUpdates id (fun x y => x.step.now ≤ y.step.now) c.history) ∧
    (c.NoneWaits id → ∀ more c', c.run more = some c' →
      ∃ later, c'.history = c.history ++ later ∧
        ∀ x ∈ c.history, ∀ y ∈ later, x.Updates id → y.Updates id → Event.Prolonged id x y) := by
  have hfound : ∀ {es c}, (Calls.start r clock).run es = some c →
      ∀ x ∈ c.history, x.found.ttl = some ttl := by
    intro es c h x hx
    obtain ⟨steps, hhistory, -⟩ := Calls.history_eq_events h
    rw [ttl_found (hhistory ▸ hx), httl]
  constructor
  · refine List.Pairwise.iff_of_mem fun {x y} hx hy => ?_
    refine forall₂_congr fun hxid hyid => ?_
    exact Event.prolonged_iff (hfound h x hx) (hfound h y hy) hxid hyid
  · intro hnone more c' hmore
    obtain ⟨later, hlater⟩ := Calls.Follows.run hnone hmore
    refine ⟨later, hlater.history, fun x hx y hy hxid hyid => ?_⟩
    have hrun : (Calls.start r clock).run (es ++ more) = some c' := by
      rw [Calls.run, List.foldlM_append]
      exact Option.bind_eq_some_iff.mpr ⟨c, h, hmore⟩
    have hyhistory : y ∈ c'.history := hlater.history ▸ List.mem_append_right _ hy
    refine (Event.prolonged_iff (hfound h x hx) (hfound hrun y hyhistory) hxid hyid).mpr ?_
    -- The clock stands between the two readings.
    exact Instant.le_trans ((Calls.Behind.run h).history x hx) (hlater.readings y hy hyid.1)

/-- A session is recorded, and two updates of it read the clock before either is executed. -/
def overlapping (first second : Nat) : List CallEvent :=
  [.arrive 0 { now := ⟨30⟩, op := .add { id := "s1", username := "alice" } }, .execute 0,
    .arrive 1 { now := ⟨33⟩, op := .updateTraffic "s1" 10 20 },
    .arrive 2 { now := ⟨34⟩, op := .updateTraffic "s1" 30 40 },
    .execute first, .execute second]

/-- Executed in the order of their readings, both prolong the session. -/
theorem overlapping_in_order_prolongs :
    ∃ c, (Calls.start (Registry.new (some ⟨5⟩)) ⟨30⟩).run (overlapping 1 2) = some c ∧
      AcrossUpdates "s1" (Event.Prolonged "s1") c.history ∧
      ∃ s, c.registry.get ⟨39⟩ "s1" = .ok s := by
  refine ⟨_, rfl, ?_, _, rfl⟩
  have hiff := @prolonged_iff_in_order ⟨5⟩ (Registry.new (some ⟨5⟩)) ⟨30⟩ _ (overlapping 1 2) rfl
    rfl "s1"
  exact hiff.1.mpr (List.Pairwise.imp (fun hle _ _ => hle) (by decide))

/-- The earlier update gets the lock last, and takes from the session what the later one has given
it. -/
theorem late_update_shortens :
    ∃ c, (Calls.start (Registry.new (some ⟨5⟩)) ⟨30⟩).run (overlapping 2 1) = some c ∧
      ¬AcrossUpdates "s1" (Event.Prolonged "s1") c.history ∧
      c.registry.get ⟨39⟩ "s1" = .error (.expired "s1") := by
  refine ⟨_, rfl, fun h => ?_, rfl⟩
  -- The last two in the history are the updates, the later reading first.
  have hpair := (List.pairwise_cons.mp (List.pairwise_cons.mp h).2).1 _ List.mem_cons_self
  have hle := (Event.prolonged_iff rfl rfl ⟨rfl, rfl⟩ ⟨rfl, rfl⟩).mp
    (hpair ⟨rfl, rfl⟩ ⟨rfl, rfl⟩)
  exact absurd hle (by decide)

end Registry

end GatewayAgent
