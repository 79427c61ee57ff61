import GatewayAgent.Proofs.Transport.Slots
import Mathlib.Data.List.Induction

/-!
# What is handed over to the server

Every socket goes one way: it is accepted, it completes its handshake if there has to be one, its
task gives back the slot and sends the connection into the channel. `Journey` says how far it is on
this way, and where it can leave it: at the handshake, or at the channel if the server is gone. An
event takes one socket a step further and leaves all others where they are (`Journey.step`), so
along a run every socket is somewhere on its way (`Journey.run`).

`slots_conserved_and_verified_handed_over` puts this together with the count of the slots. A socket
is placed in the channel once at most, and where a handshake is asked for, only after it has been
completed.
-/

namespace GatewayAgent

/-- The socket that an event is about, if it is about one. -/
def AcceptEvent.socket? : AcceptEvent → Option Nat
  | .accept k | .handshake k _ | .release k | .send k => some k
  | .acquire | .acceptFails | .pauseEnds | .receive | .close | .shutdown => none

namespace AcceptLoop

/-- The events about one socket. -/
def eventsOf (socket : Nat) (es : List AcceptEvent) : List AcceptEvent :=
  es.filter fun e => e.socket? = some socket

/-- The socket that an event places in the channel, if it places one. -/
def placed? (l : AcceptLoop) : AcceptEvent → Option Nat
  | .send k => if l.receiving then some k else none
  | _ => none

/-- The sockets that a run places in the channel, in this order. -/
def placements (l : AcceptLoop) : List AcceptEvent → List Nat
  | [] => []
  | e :: es =>
    match l.step e with
    | some l' => (l.placed? e).toList ++ l'.placements es
    | none => []

/-! ### The way of a socket -/

/-- What happens to a socket until its connection is made. -/
def opening (tls : Bool) (k : Nat) : List AcceptEvent :=
  if tls then [.accept k, .handshake k .completed] else [.accept k]

/-- Where a socket is after the events about it, and how often it was placed in the channel. -/
inductive Journey (tls : Bool) (k : Nat) : List AcceptEvent → Nat → Option Connection → Prop
  | unknown : Journey tls k [] 0 none
  | handshaking (htls : tls = true) : Journey tls k [.accept k] 0 (some { phase := .handshaking })
  | rejected (htls : tls = true) {outcome : HandshakeOutcome} (houtcome : outcome ≠ .completed) :
      Journey tls k [.accept k, .handshake k outcome] 0 (some { phase := .dropped })
  | established : Journey tls k (opening tls k) 0 (some { phase := .established, verified := tls })
  | sending : Journey tls k (opening tls k ++ [.release k]) 0
      (some { phase := .sending, verified := tls })
  | delivered : Journey tls k (opening tls k ++ [.release k, .send k]) 1
      (some { phase := .delivered, verified := tls })
  /-- The server is gone. -/
  | unwanted : Journey tls k (opening tls k ++ [.release k, .send k]) 0
      (some { phase := .dropped, verified := tls })

/-- What an event makes of the connection that it is about. -/
inductive Transition (l : AcceptLoop) (k : Nat) :
    AcceptEvent → Option Connection → Connection → Prop
  | accepted : Transition l k (.accept k) none
      { phase := if l.tls then .handshaking else .established }
  | completed {c : Connection} (hphase : c.phase = .handshaking) :
      Transition l k (.handshake k .completed) (some c) { phase := .established, verified := true }
  | rejected {c : Connection} (hphase : c.phase = .handshaking) {outcome : HandshakeOutcome}
      (houtcome : outcome ≠ .completed) :
      Transition l k (.handshake k outcome) (some c) { c with phase := .dropped }
  | released {c : Connection} (hphase : c.phase = .established) :
      Transition l k (.release k) (some c) { c with phase := .sending }
  | delivered {c : Connection} (hphase : c.phase = .sending) (hreceiving : l.receiving = true) :
      Transition l k (.send k) (some c) { c with phase := .delivered }
  | unwanted {c : Connection} (hphase : c.phase = .sending) (hreceiving : l.receiving = false) :
      Transition l k (.send k) (some c) { c with phase := .dropped }

variable {l l' : AcceptLoop} {k n : Nat} {c : Connection} {found : Option Connection}
  {e : AcceptEvent} {es : List AcceptEvent} {tls : Bool}

namespace Journey

theorem placed_le_one (h : Journey tls k es n found) : n ≤ 1 := by
  cases h <;> decide

/-- A socket that was placed in the channel has gone the whole way. -/
theorem of_placed (h : Journey tls k es n found) (hn : 0 < n) :
    es = opening tls k ++ [.release k, .send k] ∧
      found = some { phase := .delivered, verified := tls } := by
  cases h with
  | delivered => exact ⟨rfl, rfl⟩
  | _ => exact absurd hn (Nat.lt_irrefl 0)

end Journey

/-! ### One event -/

theorem stepTask_eq_some (h : l.stepTask k c e = some l') (he : e.socket? = some k) :
    l'.tls = l.tls ∧ ∃ c', l'.connections = l.connections.insert k c' ∧
      Transition l k e (some c) c' := by
  cases e with
  | handshake socket outcome =>
    obtain rfl : socket = k := Option.some.inj he
    rw [stepTask, Option.ite_none_left_eq_some, not_not] at h
    obtain ⟨hphase, h⟩ := h
    split at h
    · next houtcome =>
      subst houtcome
      cases h
      exact ⟨rfl, _, rfl, .completed hphase⟩
    · next houtcome =>
      cases h
      exact ⟨rfl, _, rfl, .rejected hphase houtcome⟩
  | release socket =>
    obtain rfl : socket = k := Option.some.inj he
    rw [stepTask, Option.ite_none_left_eq_some, not_not] at h
    obtain ⟨hphase, h⟩ := h
    cases h
    exact ⟨rfl, _, rfl, .released hphase⟩
  | send socket =>
    obtain rfl : socket = k := Option.some.inj he
    rw [stepTask, Option.ite_none_left_eq_some, not_not] at h
    obtain ⟨hphase, h⟩ := h
    cases hreceiving : l.receiving with
    | false =>
      rw [hreceiving, Bool.not_false, if_pos rfl] at h
      cases h
      exact ⟨rfl, _, rfl, .unwanted hphase hreceiving⟩
    | true =>
      rw [hreceiving, Bool.not_true, if_neg Bool.false_ne_true, Option.ite_none_left_eq_some] at h
      obtain ⟨-, h⟩ := h
      cases h
      exact ⟨rfl, _, rfl, .delivered hphase hreceiving⟩
  | _ => cases h

/-- An event changes the connection that it is about, and no other. -/
theorem step_eq_some (h : l.step e = some l') :
    l'.tls = l.tls ∧
      (e.socket? = none ∧ l'.connections = l.connections ∨
        ∃ k c', e.socket? = some k ∧ l'.connections = l.connections.insert k c' ∧
          Transition l k e (l.connections.find? k) c') := by
  cases e with
  | acquire | acceptFails | pauseEnds | receive =>
    rw [step, Option.ite_none_right_eq_some] at h
    obtain ⟨-, h⟩ := h
    cases h
    exact ⟨rfl, .inl ⟨rfl, rfl⟩⟩
  | close =>
    cases h
    exact ⟨rfl, .inl ⟨rfl, rfl⟩⟩
  | shutdown =>
    rw [step] at h
    split at h <;> cases h <;> exact ⟨rfl, .inl ⟨rfl, rfl⟩⟩
  | accept socket =>
    rw [step, Option.ite_none_right_eq_some, Bool.and_eq_true, Bool.not_eq_true',
      Dictionary.contains, Option.isSome_eq_false_iff, Option.isNone_iff_eq_none] at h
    obtain ⟨⟨-, hnew⟩, h⟩ := h
    cases h
    exact ⟨rfl, .inr ⟨socket, _, rfl, rfl, hnew ▸ .accepted⟩⟩
  | handshake socket outcome | release socket | send socket =>
    rw [step] at h
    split at h
    · next c hc =>
      obtain ⟨htls, c', hleft, hc'⟩ := stepTask_eq_some h rfl
      exact ⟨htls, .inr ⟨socket, c', rfl, hleft, hc ▸ hc'⟩⟩
    · cases h

/-- An event about a socket takes it one step further. -/
theorem Journey.transition {c' : Connection}
    (hj : Journey l.tls k es n found) (h : Transition l k e found c') :
    Journey l.tls k (es ++ [e]) (n + (l.placed? e).toList.count k) (some c') := by
  cases h with
  | accepted =>
    cases hj
    cases htls : l.tls with
    | true => exact .handshaking rfl
    | false => exact .established
  | completed hphase =>
    cases hj with
    | handshaking htls =>
      have hopening := @Journey.established l.tls k
      rw [htls] at hopening ⊢
      exact hopening
    | _ => cases hphase
  | rejected hphase houtcome =>
    cases hj with
    | handshaking htls => exact .rejected htls houtcome
    | _ => cases hphase
  | released hphase =>
    cases hj with
    | established => exact .sending
    | _ => cases hphase
  | delivered hphase hreceiving =>
    cases hj with
    | sending =>
      rw [placed?, if_pos hreceiving, List.append_assoc]
      simpa using @Journey.delivered l.tls k
    | _ => cases hphase
  | unwanted hphase hreceiving =>
    cases hj with
    | sending =>
      rw [placed?, hreceiving, if_neg Bool.false_ne_true, List.append_assoc]
      exact .unwanted
    | _ => cases hphase

/-- An event that is not about a socket does not place it in the channel. -/
theorem count_placed?_of_ne (he : e.socket? ≠ some k) : (l.placed? e).toList.count k = 0 := by
  refine List.count_eq_zero.mpr fun hk => ?_
  cases e with
  | send socket =>
    rw [placed?, Option.mem_toList, Option.ite_none_right_eq_some] at hk
    exact he hk.2
  | _ => cases hk

theorem eventsOf_snoc_self (he : e.socket? = some k) :
    eventsOf k (es ++ [e]) = eventsOf k es ++ [e] := by
  simp [eventsOf, he]

theorem eventsOf_snoc_of_ne (he : e.socket? ≠ some k) :
    eventsOf k (es ++ [e]) = eventsOf k es := by
  simp [eventsOf, he]

/-- Whatever an event is about, every socket is somewhere on its way afterwards. -/
theorem Journey.step (htls : l.tls = tls)
    (hj : Journey tls k (eventsOf k es) n (l.connections.find? k)) (h : l.step e = some l') :
    Journey tls k (eventsOf k (es ++ [e])) (n + (l.placed? e).toList.count k)
      (l'.connections.find? k) := by
  subst htls
  obtain ⟨-, hleft⟩ := step_eq_some h
  by_cases he : e.socket? = some k
  · obtain ⟨hnone, -⟩ | ⟨socket, c', hsocket, hleft, hc'⟩ := hleft
    · rw [hnone] at he
      cases he
    · obtain rfl : socket = k := Option.some.inj (hsocket.symm.trans he)
      rw [hleft, Dictionary.find?_insert, if_pos rfl, eventsOf_snoc_self he]
      exact hj.transition hc'
  · have hfind : l'.connections.find? k = l.connections.find? k := by
      obtain ⟨-, hleft⟩ | ⟨socket, c', hsocket, hleft, -⟩ := hleft
      · rw [hleft]
      · rw [hleft, Dictionary.find?_insert, if_neg]
        rintro rfl
        exact he hsocket
    rw [eventsOf_snoc_of_ne he, count_placed?_of_ne he, hfind]
    exact hj

/-! ### Runs -/

theorem run_snoc_eq_some (h : l.run (es ++ [e]) = some l') :
    ∃ m, l.run es = some m ∧ m.step e = some l' := by
  rw [run_append] at h
  obtain ⟨m, hm, hlast⟩ := Option.bind_eq_some_iff.mp h
  obtain ⟨next, hstep, hend⟩ := Option.bind_eq_some_iff.mp hlast
  cases hend
  exact ⟨m, hm, hstep⟩

theorem placements_snoc {m : AcceptLoop} (h : l.run es = some m) (hstep : m.step e = some l') :
    l.placements (es ++ [e]) = l.placements es ++ (m.placed? e).toList := by
  induction es generalizing l with
  | nil =>
    cases h
    simp [placements, hstep]
  | cons first es ih =>
    obtain ⟨next, hfirst, hrest⟩ := Option.bind_eq_some_iff.mp h
    simp only [List.cons_append, placements, hfirst, ih hrest, List.append_assoc]

/-- Along a run, every socket is somewhere on its way. -/
theorem Journey.run {limit room : Nat} (h : (start tls limit room).run es = some l) (k : Nat) :
    l.tls = tls ∧
      Journey tls k (eventsOf k es) (((start tls limit room).placements es).count k)
        (l.connections.find? k) := by
  induction es using List.reverseRecOn generalizing l with
  | nil =>
    cases h
    exact ⟨rfl, .unknown⟩
  | append_singleton es e ih =>
    obtain ⟨m, hm, hstep⟩ := run_snoc_eq_some h
    obtain ⟨htls, hj⟩ := ih hm
    refine ⟨(step_eq_some hstep).1.trans htls, ?_⟩
    rw [placements_snoc hm hstep, List.count_append]
    exact hj.step htls hstep

/-- **Slots and handover.** In every state of every run, the slots that are free, that the loop
holds and that tasks hold are as many as the limit says, or one for a limit of zero. No socket is
placed in the channel twice, and one that is placed was accepted. Where connections need a
handshake, all that ever happened to a socket that is placed is that it was accepted, completed its
handshake, gave back its slot and was sent; what the server gets is the verified connection. -/
theorem slots_conserved_and_verified_handed_over {tls : Bool} {limit room : Nat}
    {es : List AcceptEvent} {l : AcceptLoop} (h : (start tls limit room).run es = some l) :
    l.free + l.held + l.heldByTasks = max limit 1 ∧
      ((start tls limit room).placements es).Nodup ∧
      (∀ k ∈ (start tls limit room).placements es, .accept k ∈ es) ∧
      (tls = true → ∀ k ∈ (start tls limit room).placements es,
        eventsOf k es = [.accept k, .handshake k .completed, .release k, .send k] ∧
          l.connections.find? k = some { phase := .delivered, verified := true }) := by
  have hplaced : ∀ k ∈ (start tls limit room).placements es,
      eventsOf k es = opening tls k ++ [.release k, .send k] ∧
        l.connections.find? k = some { phase := .delivered, verified := tls } :=
    fun k hk => (Journey.run h k).2.of_placed (List.count_pos_iff.mpr hk)
  refine ⟨(slotCount_run h).trans (slotCount_start tls limit room), ?_, fun k hk => ?_, ?_⟩
  · exact List.nodup_iff_count_le_one.mpr fun k => (Journey.run h k).2.placed_le_one
  · have haccept : AcceptEvent.accept k ∈ eventsOf k es := by
      rw [(hplaced k hk).1]
      cases tls <;> simp [opening]
    exact (List.mem_filter.mp haccept).1
  · rintro rfl k hk
    exact hplaced k hk

/-- One client is turned away at its handshake, a socket cannot be accepted, one client does not
finish its handshake in time, and one is let in. -/
def threeClients : List AcceptEvent :=
  [.acquire, .accept 1, .handshake 1 .failed, .acquire, .acceptFails, .pauseEnds,
    .acquire, .accept 2, .handshake 2 .timedOut,
    .acquire, .accept 3, .handshake 3 .completed, .release 3, .acquire, .send 3, .shutdown]

/-- Both slots have come back, and the server gets the client that was let in. -/
theorem third_client_handed_over :
    ∃ l, (start true 2 1).run threeClients = some l ∧
      (start true 2 1).placements threeClients = [3] ∧
      l.free + l.held + l.heldByTasks = max 2 1 ∧
      eventsOf 3 threeClients = [.accept 3, .handshake 3 .completed, .release 3, .send 3] := by
  refine ⟨_, rfl, rfl, ?_⟩
  have h := @slots_conserved_and_verified_handed_over true 2 1 threeClients _ rfl
  exact ⟨h.1, (h.2.2.2 rfl 3 (by decide)).1⟩

end AcceptLoop

end GatewayAgent
