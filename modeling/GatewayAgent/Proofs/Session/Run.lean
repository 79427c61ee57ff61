import GatewayAgent.Proofs.History
import GatewayAgent.Proofs.Session.Registry

/-!
# Runs of a registry

A run is a sequence of operations on one registry, each with the clock reading that it goes by.
`perform` executes one of them; a failing operation leaves the registry as it was. `events` lists
what happened, operation by operation.
-/

namespace GatewayAgent

namespace Registry

/-- An operation on the registry with its arguments. -/
inductive Operation where
  | add (s : Session)
  | get (id : String)
  | contains (id : String)
  | list
  | listByUsername (username : String)
  | count
  | countByUsername (username : String)
  | statistics
  | getOrCreate (s : Session)
  | update (id : String) (change : Session → Except String Session)
  | updateTraffic (id : String) (bytesIn bytesOut : UInt64)
  | remove (id : String)
  | removeByUsername (username : String)
  | clear
  | sweep

/-- What an operation returns. -/
inductive Outcome where
  | done (result : Except SessionError Unit)
  | found (result : Except SessionError Session)
  /-- The session that is there now, and whether it is new. -/
  | provided (result : Except SessionError (Session × Bool))
  | flag (b : Bool)
  | sessions (l : List Session)
  | number (n : Nat)
  | totals (t : Statistics)

/-- The registry after a write that may have failed. -/
def settle (r : Registry) : Except SessionError Registry → Registry × Outcome
  | .ok r' => (r', .done (.ok ()))
  | .error e => (r, .done (.error e))

/-- Executes an operation at the clock reading `now`. -/
def perform (r : Registry) (now : Instant) : Operation → Registry × Outcome
  | .add s => r.settle (r.add now s)
  | .get id => (r, .found (r.get now id))
  | .contains id => (r, .flag (r.contains now id))
  | .list => (r, .sessions (r.list now))
  | .listByUsername username => (r, .sessions (r.listByUsername now username))
  | .count => (r, .number (r.count now))
  | .countByUsername username => (r, .number (r.countByUsername now username))
  | .statistics => (r, .totals (r.statistics now))
  | .getOrCreate s =>
    match r.getOrCreate now s with
    | .ok (r', found, created) => (r', .provided (.ok (found, created)))
    | .error e => (r, .provided (.error e))
  | .update id change => r.settle (r.update now id change)
  | .updateTraffic id bytesIn bytesOut => r.settle (r.updateTraffic now id bytesIn bytesOut)
  | .remove id => r.settle (r.remove id)
  | .removeByUsername username =>
    let (rest, removed) := r.removeByUsername username
    (rest, .number removed)
  | .clear => (r.clear, .done (.ok ()))
  | .sweep =>
    let (rest, removed) := r.sweep now
    (rest, .number removed)

/-- A removal that fails removes nothing, for there is nothing to remove. -/
theorem find?_settle_remove (r : Registry) (id id' : String) :
    (r.settle (r.remove id)).1.sessions.find? id' =
      if id' = id ∧ id ≠ "" then none else r.sessions.find? id' := by
  cases hr : r.remove id with
  | ok r' =>
    rw [if_congr (and_iff_left (remove_eq_ok_iff.mp hr).1) rfl rfl]
    exact find?_of_remove hr
  | error e =>
    split_ifs with h
    · obtain ⟨rfl, hid⟩ := h
      exact find?_of_remove_eq_error hr hid
    · rfl

/-- An operation that is done has a result. -/
theorem ok_of_settle {r : Registry} {result : Except SessionError Registry}
    (h : (r.settle result).2 = .done (.ok ())) : ∃ r', result = .ok r' := by
  cases result with
  | ok r' => exact ⟨r', rfl⟩
  | error e => simp [settle] at h

/-- What keeps the time to live in its result keeps it as a step. -/
theorem ttl_settle (r : Registry) {result : Except SessionError Registry}
    (h : ∀ r', result = .ok r' → r'.ttl = r.ttl) : (r.settle result).1.ttl = r.ttl := by
  cases result with
  | ok r' => exact h r' rfl
  | error e => rfl

/-- A removal keeps the time to live. -/
theorem ttl_settle_remove (r : Registry) (id : String) :
    (r.settle (r.remove id)).1.ttl = r.ttl :=
  r.ttl_settle fun r' hr' => by rw [(remove_eq_ok_iff.mp hr').2.2]

/-- No operation changes the time to live. -/
@[simp]
theorem ttl_perform (r : Registry) (now : Instant) (op : Operation) :
    (r.perform now op).1.ttl = r.ttl := by
  have hupdate : ∀ id change r', r.update now id change = .ok r' → r'.ttl = r.ttl := by
    intro id change r' hr'
    obtain ⟨-, s, draft, -, -, rfl⟩ := update_eq_ok_iff.mp hr'
    rfl
  cases op with
  | add s => exact r.ttl_settle fun r' hr' => by rw [(add_eq_ok_iff.mp hr').2, ttl_put]
  | getOrCreate s =>
    rw [perform]
    split
    · next r' found created hr' =>
      rcases (getOrCreate_eq_ok_iff.mp hr').2 with ⟨-, rfl, -⟩ | ⟨-, -, rfl, -⟩ <;> rfl
    · rfl
  | update id change => exact r.ttl_settle (hupdate id change)
  | updateTraffic id bytesIn bytesOut => exact r.ttl_settle (hupdate id _)
  | remove id => exact r.ttl_settle_remove id
  | _ => rfl

/-- A step of a run: an operation, and a reading of a clock. -/
structure Step where
  now : Instant
  op : Operation
  representable : now.Representable := by decide

/-- A step that has been taken, with the registry that it found. -/
structure Event where
  step : Step
  found : Registry

namespace Event

/-- The registry that the step has left. -/
def left (x : Event) : Registry := (x.found.perform x.step.now x.step.op).1

/-- What the step has returned. -/
def outcome (x : Event) : Outcome := (x.found.perform x.step.now x.step.op).2

end Event

/-- The registry after a run. -/
def after (r : Registry) (run : List Step) : Registry :=
  run.foldl (fun r step => (r.perform step.now step.op).1) r

/-- What happens in a run. -/
def events (r : Registry) (run : List Step) : List Event :=
  trace (fun r step => (r.perform step.now step.op).1) Event.mk r run

/-- The readings of the clock never go back. -/
def Chronological (run : List Step) : Prop := run.Pairwise fun a b => a.now ≤ b.now

variable {r : Registry} {run : List Step} {step : Step}

/-- The last step of a run is taken on what the rest leaves. -/
theorem after_snoc :
    r.after (run ++ [step]) = ((r.after run).perform step.now step.op).1 := by
  rw [after, List.foldl_append]
  rfl

/-- No run changes the time to live. -/
theorem ttl_after (r : Registry) (run : List Step) : (r.after run).ttl = r.ttl := by
  induction run generalizing r with
  | nil => rfl
  | cons step run ih => exact (ih _).trans (r.ttl_perform step.now step.op)

/-- The first step of a run goes on record with the registry that it found. -/
theorem events_cons :
    r.events (step :: run) = ⟨step, r⟩ :: (r.perform step.now step.op).1.events run := rfl

/-- The last step of a run goes on record with what the rest leaves. -/
theorem events_snoc : r.events (run ++ [step]) = r.events run ++ [⟨step, r.after run⟩] :=
  trace_snoc

/-- What is on record are the steps of the run. -/
theorem step_mem_of_mem_events {x : Event} (h : x ∈ r.events run) : x.step ∈ run := by
  obtain ⟨step, hstep, found, rfl⟩ := exists_of_mem_trace h
  exact hstep

end Registry

end GatewayAgent
