import GatewayAgent.Transport.AcceptLoop
import GatewayAgent.Proofs.Dictionary

/-!
# How many sockets are in flight

Slots are neither made nor lost: along every run those that are free, the one that the loop holds
and those that tasks hold are as many as in the beginning (`slotCount_step`, `slotCount_run`). Hence
no more handshakes are on their way than there are slots.

The sockets in flight are not bounded in this way, for a task gives back its slot before it waits
for room in the channel. `inFlight_le_slots_iff` says when the bound holds all the same: as long as
no more tasks wait than there are slots that no task holds. `exists_crowd` says that nothing else
bounds them: a server that stops picking up connections leaves any number in flight.
-/

namespace GatewayAgent

namespace AcceptLoop

variable {l l' : AcceptLoop} {socket : Nat} {c c' : Connection} {e : AcceptEvent}

/-! ### Tasks that wait for room -/

/-- Whether the task of a connection has given back its slot and waits for room in the channel. -/
def Connection.waits (c : Connection) : Bool := c.phase = .sending

/-- The tasks that wait for room in the channel. -/
def waiting (l : AcceptLoop) : Nat := l.connections.values.countP Connection.waits

theorem heldByTasks_eq (l : AcceptLoop) :
    l.heldByTasks = l.connections.values.countP Connection.holdsSlot :=
  List.countP_eq_length_filter.symm

/-- What is in flight has a task that holds a slot or waits for room. -/
theorem inFlight_eq (l : AcceptLoop) : l.inFlight = l.heldByTasks + l.waiting := by
  rw [inFlight, heldByTasks_eq, waiting, ← List.countP_eq_length_filter]
  induction l.connections.values with
  | nil => rfl
  | cons c cs ih =>
    simp only [List.countP_cons, ih]
    cases hc : c.phase <;> simp [Connection.holdsSlot, Connection.waits, hc] <;> omega

/-- A move counts the new state of a connection and no longer the state that it was found in. -/
theorem heldByTasks_move (l : AcceptLoop) (socket : Nat) (c : Connection) :
    (l.move socket c).heldByTasks +
        (l.connections.find? socket).toList.countP Connection.holdsSlot =
      l.heldByTasks + [c].countP Connection.holdsSlot := by
  rw [heldByTasks_eq, heldByTasks_eq]
  exact Dictionary.countP_values_insert Connection.holdsSlot l.connections socket c

theorem waiting_move (l : AcceptLoop) (socket : Nat) (c : Connection) :
    (l.move socket c).waiting +
        (l.connections.find? socket).toList.countP Connection.waits =
      l.waiting + [c].countP Connection.waits :=
  Dictionary.countP_values_insert Connection.waits l.connections socket c

/-! ### Slots are neither made nor lost -/

/-- The slots, wherever they are. -/
def slotCount (l : AcceptLoop) : Nat := l.free + l.held + l.heldByTasks

/-- In the beginning all slots are free, and there is always one. -/
theorem slotCount_start (tls : Bool) (limit room : Nat) :
    (start tls limit room).slotCount = max limit 1 := rfl

/-- What the loop itself does with its slot. -/
theorem slotCount_loop {phase : AcceptPhase} {free : Nat}
    (h : free + held { l with phase := phase } = l.free + l.held) :
    slotCount { l with phase := phase, free := free } = l.slotCount :=
  congrArg (· + l.heldByTasks) h

/-- A task that goes on as it did, with or without a slot. -/
theorem slotCount_move (hc : l.connections.find? socket = some c)
    (h : Connection.holdsSlot c' = Connection.holdsSlot c) :
    (l.move socket c').slotCount = l.slotCount := by
  have hmove := heldByTasks_move l socket c'
  rw [hc, Option.toList_some, List.countP_singleton, List.countP_singleton, h] at hmove
  change l.free + l.held + (l.move socket c').heldByTasks = l.slotCount
  rw [slotCount]
  omega

/-- A task that gives back its slot. -/
theorem slotCount_move_release (hc : l.connections.find? socket = some c)
    (h : Connection.holdsSlot c = true) (h' : Connection.holdsSlot c' = false) :
    AcceptLoop.slotCount { l.move socket c' with free := l.free + 1 } = l.slotCount := by
  have hmove := heldByTasks_move l socket c'
  rw [hc, Option.toList_some, List.countP_singleton, List.countP_singleton, h, h'] at hmove
  change l.free + 1 + l.held + (l.move socket c').heldByTasks = l.slotCount
  rw [slotCount]
  simp only [if_true, Bool.false_eq_true, if_false] at hmove
  omega

/-- A task that is started takes over the slot of the loop. -/
theorem slotCount_move_accept (hc : l.connections.find? socket = none)
    (hphase : l.phase = .accepting) (h : Connection.holdsSlot c = true) :
    AcceptLoop.slotCount { l.move socket c with phase := .acquiring } = l.slotCount := by
  have hmove := heldByTasks_move l socket c
  have hheld : l.held = 1 := by rw [held, hphase]
  rw [hc, Option.toList_none, List.countP_nil, List.countP_singleton, if_pos h] at hmove
  change l.free + 0 + (l.move socket c).heldByTasks = l.slotCount
  rw [slotCount]
  omega

theorem slotCount_stepTask (hc : l.connections.find? socket = some c)
    (h : l.stepTask socket c e = some l') : l'.slotCount = l.slotCount := by
  cases e with
  | handshake k outcome =>
    rw [stepTask, Option.ite_none_left_eq_some, not_not] at h
    obtain ⟨hphase, h⟩ := h
    have hholds : Connection.holdsSlot c = true := by simp [Connection.holdsSlot, hphase]
    split at h
    · cases h
      exact slotCount_move hc hholds.symm
    · cases h
      exact slotCount_move_release hc hholds rfl
  | release k =>
    rw [stepTask, Option.ite_none_left_eq_some, not_not] at h
    obtain ⟨hphase, h⟩ := h
    have hholds : Connection.holdsSlot c = true := by simp [Connection.holdsSlot, hphase]
    cases h
    exact slotCount_move_release hc hholds rfl
  | send k =>
    rw [stepTask, Option.ite_none_left_eq_some, not_not] at h
    obtain ⟨hphase, h⟩ := h
    have hholds : Connection.holdsSlot c = false := by simp [Connection.holdsSlot, hphase]
    split at h
    · cases h
      exact slotCount_move hc hholds.symm
    · rw [Option.ite_none_left_eq_some] at h
      obtain ⟨-, h⟩ := h
      cases h
      -- The channel has no part in the count.
      change (l.move socket { c with phase := .delivered }).slotCount = l.slotCount
      exact slotCount_move hc hholds.symm
  | _ => cases h

/-- Every event moves slots between the free ones, the loop and the tasks. -/
theorem slotCount_step (h : l.step e = some l') : l'.slotCount = l.slotCount := by
  cases e with
  | acquire =>
    rw [step, Option.ite_none_right_eq_some, Bool.and_eq_true, decide_eq_true_eq,
      decide_eq_true_eq] at h
    obtain ⟨⟨hphase, hfree⟩, h⟩ := h
    have hheld : l.held = 0 := by rw [held, hphase]
    cases h
    exact slotCount_loop (by rw [hheld]; exact Nat.sub_add_cancel hfree)
  | accept k =>
    rw [step, Option.ite_none_right_eq_some, Bool.and_eq_true, decide_eq_true_eq,
      Bool.not_eq_true', Dictionary.contains, Option.isSome_eq_false_iff,
      Option.isNone_iff_eq_none] at h
    obtain ⟨⟨hphase, hnew⟩, h⟩ := h
    cases h
    refine slotCount_move_accept hnew hphase ?_
    cases l.tls <;> rfl
  | acceptFails =>
    rw [step, Option.ite_none_right_eq_some] at h
    obtain ⟨hphase, h⟩ := h
    have hheld : l.held = 1 := by rw [held, hphase]
    cases h
    exact slotCount_loop (by rw [hheld]; rfl)
  | pauseEnds =>
    rw [step, Option.ite_none_right_eq_some] at h
    obtain ⟨hphase, h⟩ := h
    have hheld : l.held = 1 := by rw [held, hphase]
    cases h
    exact slotCount_loop (by rw [hheld]; rfl)
  | receive =>
    rw [step, Option.ite_none_right_eq_some] at h
    obtain ⟨-, h⟩ := h
    cases h
    rfl
  | close =>
    cases h
    rfl
  | shutdown =>
    cases hphase : l.phase with
    | acquiring =>
      simp only [step, hphase] at h
      have hheld : l.held = 0 := by rw [held, hphase]
      cases h
      exact slotCount_loop (by rw [hheld]; rfl)
    | accepting =>
      -- The loop ends with a slot in its hands, which is given back.
      simp only [step, hphase] at h
      have hheld : l.held = 1 := by rw [held, hphase]
      cases h
      exact slotCount_loop (by rw [hheld]; rfl)
    | pausing => simp [step, hphase] at h
    | ended => simp [step, hphase] at h
  | handshake k outcome | release k | send k =>
    rw [step] at h
    split at h
    · next hc => exact slotCount_stepTask hc h
    · cases h

theorem slotCount_run {es : List AcceptEvent} (h : l.run es = some l') :
    l'.slotCount = l.slotCount := by
  induction es generalizing l with
  | nil =>
    cases h
    rfl
  | cons e es ih =>
    obtain ⟨next, hstep, hrun⟩ := Option.bind_eq_some_iff.mp h
    rw [ih hrun, slotCount_step hstep]

/-! ### Sockets in flight -/

/-- **When the sockets in flight are bounded.** There are as many slots as the limit says, and one
for a limit of zero. In every state of every run, the slots held by the loop and its tasks are at
most those there are. The sockets in flight are no more than the slots exactly as long as the tasks
that gave their slots back and wait for room are no more than the slots that no task holds. -/
theorem inFlight_le_slots_iff {tls : Bool} {limit room : Nat} {es : List AcceptEvent}
    (h : (start tls limit room).run es = some l) :
    l.held + l.heldByTasks ≤ max limit 1 ∧
      (l.inFlight ≤ max limit 1 ↔ l.waiting ≤ l.free + l.held) := by
  have hslots := (slotCount_run h).trans (slotCount_start tls limit room)
  have hflight := inFlight_eq l
  rw [slotCount] at hslots
  constructor
  · omega
  · constructor
    · intro hle
      omega
    · intro hle
      omega

/-- Two connections are in flight although there is one slot. The channel has room for one, which
the first connection took, so the second waits; the loop accepts the third with the slot that the
second gave back. -/
theorem third_accepted_while_second_waits :
    ∃ l, (start true 1 1).run
        [.acquire, .accept 1, .handshake 1 .completed, .release 1, .send 1,
          .acquire, .accept 2, .handshake 2 .completed, .release 2,
          .acquire, .accept 3] = some l ∧
      l.step (.send 2) = none ∧ max 1 1 < l.inFlight :=
  ⟨_, rfl, rfl, by decide⟩

/-- The third client is accepted with the slot that the first gave back. With room in the channel
for every connection that is made, two slots keep the sockets in flight at two. -/
theorem two_in_flight_of_two_slots :
    ∃ l, (start true 2 4).run
        [.acquire, .accept 1, .acquire, .accept 2, .handshake 1 .completed, .release 1, .send 1,
          .acquire, .accept 3] = some l ∧
      l.held + l.heldByTasks ≤ max 2 1 ∧ l.inFlight ≤ max 2 1 ∧ l.inFlight = 2 := by
  refine ⟨_, rfl, ?_⟩
  have h := @inFlight_le_slots_iff _ true 2 4
    [.acquire, .accept 1, .acquire, .accept 2, .handshake 1 .completed, .release 1, .send 1,
      .acquire, .accept 3] rfl
  exact ⟨h.1, h.2.mpr (by decide), by decide⟩

/-! ### A server that stops picking up connections -/

theorem run_append (l : AcceptLoop) (es es' : List AcceptEvent) :
    l.run (es ++ es') = (l.run es).bind fun l => l.run es' := by
  induction es generalizing l with
  | nil => rfl
  | cons e es ih => simp only [List.cons_append, run, ih, Option.bind_assoc]

/-- What happens to a good client until its task waits for room in the channel. -/
def arrival (tls : Bool) (socket : Nat) : List AcceptEvent :=
  if tls then [.acquire, .accept socket, .handshake socket .completed, .release socket]
  else [.acquire, .accept socket, .release socket]

/-- An arrival takes a slot and gives it back. -/
theorem run_arrival (hphase : l.phase = .acquiring) (hfree : 0 < l.free)
    (hnew : l.connections.find? socket = none) :
    l.run (arrival l.tls socket) =
      some (l.move socket { phase := .sending, verified := l.tls }) := by
  have hback : l.free - 1 + 1 = l.free := Nat.sub_add_cancel hfree
  cases htls : l.tls <;>
    simp [arrival, run, step, stepTask, move, Dictionary.contains, Dictionary.find?_insert,
      hphase, hfree, hnew, htls, hback]

/-- The loop is ready for the next client, `q` connections are in the channel, where nobody picks
them up, and the tasks of `n` more wait for room. -/
structure Crowd (tls : Bool) (limit room q n : Nat) (l : AcceptLoop) : Prop where
  tls_eq : l.tls = tls
  room_eq : l.room = room
  receiving : l.receiving = true
  phase : l.phase = .acquiring
  free : l.free = max limit 1
  queued : l.queued = q
  waiting : l.waiting = n
  fresh : ∀ k, q + n ≤ k → l.connections.find? k = none

namespace Crowd

variable {tls : Bool} {limit room q n : Nat}

theorem start (tls : Bool) (limit room : Nat) :
    Crowd tls limit room 0 0 (start tls limit room) where
  tls_eq := rfl
  room_eq := rfl
  receiving := rfl
  phase := rfl
  free := rfl
  queued := rfl
  waiting := rfl
  fresh _ _ := rfl

/-- One more client comes, whose task waits. -/
theorem wait (h : Crowd tls limit room q n l) :
    ∃ es l', l.run es = some l' ∧ Crowd tls limit room q (n + 1) l' ∧
      l'.connections.find? (q + n) = some { phase := .sending, verified := tls } := by
  have hnew : l.connections.find? (q + n) = none := h.fresh _ (Nat.le_refl _)
  have hfree : 0 < l.free := h.free ▸ Nat.le_max_right limit 1
  have hwaiting := waiting_move l (q + n) { phase := .sending, verified := l.tls }
  rw [hnew, h.waiting] at hwaiting
  refine ⟨_, _, run_arrival h.phase hfree hnew, ?_, ?_⟩
  · refine { h with waiting := hwaiting, fresh := fun k hk => ?_ }
    rw [move, Dictionary.find?_insert, if_neg (by omega)]
    exact h.fresh k (by omega)
  · rw [move, Dictionary.find?_insert, if_pos rfl, h.tls_eq]

/-- One more client comes and finds room in the channel. -/
theorem deliver (h : Crowd tls limit room q n l) (hroom : q < room) :
    ∃ es l', l.run es = some l' ∧ Crowd tls limit room (q + 1) n l' := by
  obtain ⟨es, m, hrun, hm, hfind⟩ := h.wait
  have hwaiting := waiting_move m (q + n) { phase := .delivered, verified := tls }
  rw [hfind, hm.waiting] at hwaiting
  have hfull : ¬m.room ≤ m.queued := by
    rw [hm.room_eq, hm.queued]
    omega
  have hsend : m.run [.send (q + n)] =
      some { m.move (q + n) { phase := .delivered, verified := tls } with
        queued := m.queued + 1 } := by
    simp [run, step, stepTask, hfind, hm.receiving, hfull]
  refine ⟨es ++ [.send (q + n)], _, by rw [run_append, hrun, Option.bind_some, hsend], ?_⟩
  refine { hm with
    queued := congrArg (· + 1) hm.queued
    waiting := Nat.add_right_cancel hwaiting
    fresh := fun k hk => ?_ }
  rw [move, Dictionary.find?_insert, if_neg (by omega)]
  exact hm.fresh k (by omega)

/-- Clients come until the channel is full, and then `n` more. -/
theorem exists_run (tls : Bool) (limit room n : Nat) :
    ∃ es l, (AcceptLoop.start tls limit room).run es = some l ∧
      Crowd tls limit room room n l := by
  have hfill : ∀ q ≤ room, ∃ es l, (AcceptLoop.start tls limit room).run es = some l ∧
      Crowd tls limit room q 0 l := by
    intro q hq
    induction q with
    | zero => exact ⟨[], _, rfl, start tls limit room⟩
    | succ q ih =>
      obtain ⟨es, l, hrun, hl⟩ := ih (by omega)
      obtain ⟨es', l', hrun', hl'⟩ := hl.deliver hq
      exact ⟨es ++ es', l', by rw [run_append, hrun, Option.bind_some, hrun'], hl'⟩
  induction n with
  | zero => exact hfill room (Nat.le_refl room)
  | succ n ih =>
    obtain ⟨es, l, hrun, hl⟩ := ih
    obtain ⟨es', l', hrun', hl', -⟩ := hl.wait
    exact ⟨es ++ es', l', by rw [run_append, hrun, Option.bind_some, hrun'], hl'⟩

end Crowd

/-- **Nothing else bounds them.** Whatever the limit and the room in the channel, once the channel
is full any number of sockets can be in flight. -/
theorem exists_crowd (tls : Bool) (limit room n : Nat) :
    ∃ es l, (start tls limit room).run es = some l ∧ l.queued = room ∧ l.inFlight = n := by
  obtain ⟨es, l, hrun, hl⟩ := Crowd.exists_run tls limit room n
  have hslots := (slotCount_run hrun).trans (slotCount_start tls limit room)
  have hfree := hl.free
  rw [slotCount] at hslots
  refine ⟨es, l, hrun, hl.queued, ?_⟩
  rw [inFlight_eq, hl.waiting]
  omega

end AcceptLoop

end GatewayAgent
