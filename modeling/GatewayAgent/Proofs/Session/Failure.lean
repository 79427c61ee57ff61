import GatewayAgent.Proofs.Session.Run

/-!
# Failed operations

An operation that fails leaves the registry exactly as it was, and its error tells why it failed.

The operations of a registry return the new registry, so one that fails has none to return. Whether
it would have left something behind shows only where an operation writes as it goes: `InPlace` has
the operations that can fail as procedures on a registry in place, in which what was written before
a failure stays. They do what the operations do (`Attempt.execute_eq_perform`), although the change
of an update may leave anything in its draft before it fails, and a removal looks only after it has
removed whether there was something.

Main statement: `failed_attempt_leaves_registry`.
-/

namespace GatewayAgent

/-! ### Procedures -/

/-- A procedure on a registry in place: what it has written when it fails stays written. -/
abbrev Procedure (α : Type) : Type := ExceptT SessionError (StateM Registry) α

namespace Procedure

variable {α β : Type}

/-- The result of a procedure, and the registry that it leaves. -/
def exec (p : Procedure α) (r : Registry) : Except SessionError α × Registry := p.run.run r

@[simp]
theorem exec_pure (a : α) (r : Registry) : exec (pure a) r = (.ok a, r) := rfl

@[simp]
theorem exec_throw (e : SessionError) (r : Registry) :
    exec (throw e : Procedure α) r = (.error e, r) := rfl

@[simp]
theorem exec_getThe (r : Registry) : exec (getThe Registry) r = (.ok r, r) := rfl

@[simp]
theorem exec_set (r' r : Registry) : exec (set r') r = (.ok ⟨⟩, r') := rfl

@[simp]
theorem exec_modify (f : Registry → Registry) (r : Registry) :
    exec (modify f) r = (.ok ⟨⟩, f r) := rfl

@[simp]
theorem exec_liftM (x : Except SessionError α) (r : Registry) : exec (liftM x) r = (x, r) := by
  cases x <;> rfl

/-- What follows a step finds the registry that the step has left; nothing follows a failure. -/
theorem exec_bind (p : Procedure α) (next : α → Procedure β) (r : Registry) :
    exec (p >>= next) r =
      match exec p r with
      | (.ok a, r') => exec (next a) r'
      | (.error e, r') => (.error e, r') := by
  change ExceptT.bindCont (fun a => next a) (exec p r).1 (exec p r).2 = _
  rcases exec p r with ⟨_ | a, r'⟩ <;> rfl

end Procedure

/-! ### Operations in place -/

/-- A change of a draft: what it leaves in the draft, and whether it succeeds. One that fails may
have left anything there. -/
abbrev DraftChange : Type := Session → Session × Except String Unit

/-- The draft that a change leaves if it succeeds. -/
def DraftChange.draft (change : DraftChange) (s : Session) : Except String Session :=
  (change s).2.map fun _ => (change s).1

/-- The traffic counters replaced. -/
def DraftChange.traffic (bytesIn bytesOut : UInt64) : DraftChange :=
  fun s => ({ s with bytesIn, bytesOut }, .ok ())

/-- A draft fails with the reason of its change. -/
theorem DraftChange.draft_eq_error_iff {change : DraftChange} {s : Session} {reason : String} :
    change.draft s = .error reason ↔ (change s).2 = .error reason := by
  rw [DraftChange.draft]
  cases (change s).2 <;> simp [Except.map]

namespace InPlace

open Procedure

/-- Records a session. -/
def add (now : Instant) (s : Session) : Procedure Unit := do
  Registry.validate s
  modify fun r => r.put (r.stamp now s)

/-- Looks a live session up. -/
def get (now : Instant) (id : String) : Procedure Session := do
  Registry.requireId id
  let r ← getThe Registry
  r.live now id

/-- Looks a live session up, or else records the given one. -/
def getOrCreate (now : Instant) (s : Session) : Procedure (Session × Bool) := do
  Registry.validate s
  let r ← getThe Registry
  match r.live now s.id with
  | .ok found => pure (found, false)
  | .error _ =>
    let s := r.stamp now s
    set (r.put s)
    pure (s, true)

/-- Has a copy of a live session changed, and puts the copy in its place. -/
def update (now : Instant) (id : String) (change : DraftChange) : Procedure Unit := do
  let entry ← get now id
  let (draft, result) := change entry
  match result with
  | .error reason => throw (.updateFailed id reason)
  | .ok () => modify fun r => r.put (r.commit now id draft)

/-- Removes what is under an identifier, and fails if there was nothing. -/
def remove (id : String) : Procedure Unit := do
  Registry.requireId id
  let r ← getThe Registry
  let removed := r.sessions.find? id
  set { r with sessions := r.sessions.erase id }
  if removed.isNone then throw (.notFound id)

/-- In place, an addition does what it does on a value. -/
theorem exec_add (r : Registry) (now : Instant) (s : Session) :
    exec (add now s) r =
      match r.add now s with
      | .ok r' => (.ok (), r')
      | .error e => (.error e, r) := by
  rw [add, exec_bind, exec_liftM, Registry.add]
  cases Registry.validate s <;> rfl

/-- In place, a look-up does what it does on a value, and leaves the registry as it was. -/
theorem exec_get (r : Registry) (now : Instant) (id : String) :
    exec (get now id) r = (r.get now id, r) := by
  rw [get, exec_bind, exec_liftM, Registry.get]
  cases Registry.requireId id with
  | error e => rfl
  | ok u =>
    simp only [exec_bind, exec_getThe, exec_liftM]
    rfl

/-- In place, to get or create does what it does on a value. -/
theorem exec_getOrCreate (r : Registry) (now : Instant) (s : Session) :
    exec (getOrCreate now s) r =
      match r.getOrCreate now s with
      | .ok (r', found, created) => (.ok (found, created), r')
      | .error e => (.error e, r) := by
  rw [getOrCreate, exec_bind, exec_liftM, Registry.getOrCreate]
  cases Registry.validate s with
  | error e => rfl
  | ok u =>
    simp only [exec_bind, exec_getThe]
    cases r.live now s.id <;> rfl

/-- In place, an update does what it does on a value, although its change may fail with the draft
half changed. -/
theorem exec_update (r : Registry) (now : Instant) (id : String) (change : DraftChange) :
    exec (update now id change) r =
      match r.update now id change.draft with
      | .ok r' => (.ok (), r')
      | .error e => (.error e, r) := by
  rw [update, exec_bind, exec_get, Registry.update, Registry.get]
  cases Registry.requireId id with
  | error e => rfl
  | ok u =>
    simp only [bind, Except.bind]
    cases r.live now id with
    | error e => rfl
    | ok s =>
      -- The draft of a failed change is dropped with whatever it holds.
      simp only [DraftChange.draft]
      rcases change s with ⟨draft, reason | u⟩
      · rfl
      · simp [Registry.put, Except.map]

/-- In place, a removal does what it does on a value, although it looks only after it has
removed. -/
theorem exec_remove (r : Registry) (id : String) :
    exec (remove id) r =
      match r.remove id with
      | .ok r' => (.ok (), r')
      | .error e => (.error e, r) := by
  rw [remove, exec_bind, exec_liftM, Registry.remove]
  cases Registry.requireId id with
  | error e => rfl
  | ok u =>
    simp only [exec_bind, exec_getThe, exec_set]
    rcases Option.eq_none_or_eq_some (r.sessions.find? id) with hf | ⟨s, hf⟩
    · -- The registry has been written, but not changed.
      simp [Dictionary.contains, hf, bind, Except.bind, Dictionary.erase_of_find?_eq_none hf]
    · simp [Dictionary.contains, hf, bind, Except.bind]

end InPlace

namespace Registry

/-! ### Why an operation fails -/

section Errors

variable {r : Registry} {now : Instant} {id : String} {s : Session} {e : SessionError}

/-- The only error of an id is that it is empty. -/
theorem requireId_eq_error_iff :
    requireId id = .error e ↔ e = .invalidArgument .sessionId ∧ id = "" := by
  rw [requireId]
  split_ifs with h <;> simp [h, @eq_comm _ e]

/-- A session is refused for an empty id, or else for an empty username. -/
theorem validate_eq_error_iff :
    validate s = .error e ↔
      (e = .invalidArgument .sessionId ∧ s.id = "") ∨
        (e = .invalidArgument .username ∧ s.id ≠ "" ∧ s.username = "") := by
  rw [validate]
  split_ifs with hid hname
  · simp [hid, @eq_comm _ e]
  · simp [hid, hname, @eq_comm _ e]
  · simp [hid, hname]

/-- Nothing is live if nothing is there or what is there is expired. -/
theorem live_eq_error_iff :
    r.live now id = .error e ↔
      (e = .notFound id ∧ r.sessions.find? id = none) ∨
        (e = .expired id ∧ ∃ s, r.sessions.find? id = some s ∧ s.isExpiredAt now = true) := by
  rw [live]
  cases r.sessions.find? id with
  | none => simp [@eq_comm _ e]
  | some s => cases hs : s.isExpiredAt now <;> simp [hs, @eq_comm _ e]

/-- An addition fails only if the session is refused. -/
theorem add_eq_error_iff : r.add now s = .error e ↔ validate s = .error e := by
  rw [add]
  cases validate s <;> simp [bind, Except.bind, pure, Except.pure]

/-- To get or create fails only if the session is refused. -/
theorem getOrCreate_eq_error_iff : r.getOrCreate now s = .error e ↔ validate s = .error e := by
  rw [getOrCreate]
  cases validate s with
  | error e => simp [bind, Except.bind]
  | ok u => cases r.live now s.id <;> simp [bind, Except.bind, pure, Except.pure]

/-- A look-up fails if the id is refused or nothing is live under it. -/
theorem get_eq_error_iff :
    r.get now id = .error e ↔
      requireId id = .error e ∨ (id ≠ "" ∧ r.live now id = .error e) := by
  rw [← requireId_eq_ok_iff, get]
  cases requireId id <;> simp [bind, Except.bind]

/-- An update fails if the look-up does, or with the reason of its change. -/
theorem update_eq_error_iff {change : Session → Except String Session} :
    r.update now id change = .error e ↔
      r.get now id = .error e ∨
        ∃ reason, e = .updateFailed id reason ∧
          ∃ s, r.get now id = .ok s ∧ change s = .error reason := by
  rw [update, get]
  cases requireId id with
  | error e => simp [bind, Except.bind]
  | ok u =>
    cases r.live now id with
    | error e => simp [bind, Except.bind]
    | ok s => cases hc : change s <;> simp [bind, Except.bind, hc, @eq_comm _ e]

/-- A removal fails if the id is refused or nothing is there. -/
theorem remove_eq_error_iff :
    r.remove id = .error e ↔
      requireId id = .error e ∨
        (e = .notFound id ∧ id ≠ "" ∧ r.sessions.find? id = none) := by
  rw [← requireId_eq_ok_iff, remove]
  cases requireId id with
  | error e => simp [bind, Except.bind]
  | ok u =>
    cases hf : r.sessions.find? id <;>
      simp [bind, Except.bind, Dictionary.contains, hf, @eq_comm _ e]

end Errors

/-! ### Attempts -/

/-- An operation that can fail, with its arguments. -/
inductive Attempt where
  | add (s : Session)
  | get (id : String)
  | getOrCreate (s : Session)
  | update (id : String) (change : DraftChange)
  | updateTraffic (id : String) (bytesIn bytesOut : UInt64)
  | remove (id : String)

/-- The error of an outcome. -/
def Outcome.error? : Outcome → Option SessionError
  | .done (.error e) => some e
  | .found (.error e) => some e
  | .provided (.error e) => some e
  | _ => none

/-- The registry that a procedure leaves, with its result as an outcome. -/
def report {α : Type} (r : Registry) (outcome : Except SessionError α → Outcome)
    (p : Procedure α) : Registry × Outcome :=
  ((p.exec r).2, outcome (p.exec r).1)

namespace Attempt

/-- Executes an attempt in place at the clock reading `now`. -/
def execute (a : Attempt) (now : Instant) (r : Registry) : Registry × Outcome :=
  match a with
  | .add s => r.report .done (InPlace.add now s)
  | .get id => r.report .found (InPlace.get now id)
  | .getOrCreate s => r.report .provided (InPlace.getOrCreate now s)
  | .update id change => r.report .done (InPlace.update now id change)
  | .updateTraffic id bytesIn bytesOut =>
    r.report .done (InPlace.update now id (.traffic bytesIn bytesOut))
  | .remove id => r.report .done (InPlace.remove id)

/-- The operation that is attempted. -/
def operation : Attempt → Operation
  | .add s => .add s
  | .get id => .get id
  | .getOrCreate s => .getOrCreate s
  | .update id change => .update id change.draft
  | .updateTraffic id bytesIn bytesOut => .updateTraffic id bytesIn bytesOut
  | .remove id => .remove id

/-- The identifier that an attempt is about. -/
@[simp]
def id : Attempt → String
  | .add s | .getOrCreate s => s.id
  | .get id | .update id _ | .updateTraffic id _ _ | .remove id => id

/-- The session that an attempt would record. -/
@[simp]
def newcomer? : Attempt → Option Session
  | .add s | .getOrCreate s => some s
  | _ => none

/-- Whether an attempt needs a live session. -/
@[simp]
def needsLive : Attempt → Bool
  | .get _ | .update _ _ | .updateTraffic _ _ _ => true
  | _ => false

/-- What is the case exactly when an attempt fails with an error. -/
def Cause (a : Attempt) (r : Registry) (now : Instant) : SessionError → Prop
  | .invalidArgument .sessionId => a.id = ""
  | .invalidArgument .username => a.id ≠ "" ∧ ∃ s, a.newcomer? = some s ∧ s.username = ""
  | .notFound id =>
    id = a.id ∧ a.id ≠ "" ∧ a.newcomer? = none ∧ r.sessions.find? a.id = none
  | .expired id =>
    id = a.id ∧ a.id ≠ "" ∧ a.needsLive = true ∧
      ∃ s, r.sessions.find? a.id = some s ∧ s.isExpiredAt now = true
  | .updateFailed id reason =>
    id = a.id ∧ a.id ≠ "" ∧ ∃ change s, a = .update a.id change ∧
      (r.sessions.find? a.id = some s ∧ s.isExpiredAt now = false) ∧ (change s).2 = .error reason

/-- A procedure that does what an operation does is reported as the operation is. -/
theorem report_done {r : Registry} {p : Procedure Unit} {result : Except SessionError Registry}
    (h : p.exec r =
      match result with
      | .ok r' => (.ok (), r')
      | .error e => (.error e, r)) : r.report .done p = r.settle result := by
  rw [report, h]
  cases result <;> rfl

/-- What an attempt does in place is what the operation does. -/
theorem execute_eq_perform (a : Attempt) (now : Instant) (r : Registry) :
    a.execute now r = r.perform now a.operation := by
  cases a with
  | add s => exact report_done (InPlace.exec_add r now s)
  | get id => rw [execute, report, InPlace.exec_get, operation, perform]
  | getOrCreate s =>
    rw [execute, report, InPlace.exec_getOrCreate, operation, perform]
    cases r.getOrCreate now s <;> rfl
  | update id change => exact report_done (InPlace.exec_update r now id change)
  | updateTraffic id bytesIn bytesOut =>
    exact report_done (InPlace.exec_update r now id (.traffic bytesIn bytesOut))
  | remove id => exact report_done (InPlace.exec_remove r id)

variable {a : Attempt} {r : Registry} {now : Instant} {e : SessionError}

/-- The error of a step is that of its result. -/
theorem error?_settle {result : Except SessionError Registry} :
    (r.settle result).2.error? = some e ↔ result = .error e := by
  cases result <;> simp [settle, Outcome.error?]

/-- The registry after a failed operation is the one before. -/
theorem perform_fst_of_error (h : (r.perform now a.operation).2.error? = some e) :
    (r.perform now a.operation).1 = r := by
  have hsettle : ∀ result, (r.settle result).2.error? = some e → (r.settle result).1 = r := by
    intro result hresult
    rw [error?_settle.mp hresult]
    rfl
  cases a with
  | add s => exact hsettle _ h
  | get id => rfl
  | getOrCreate s =>
    rw [operation, perform] at h ⊢
    cases hr : r.getOrCreate now s with
    | ok found => simp [hr, Outcome.error?] at h
    | error e => rfl
  | update id change => exact hsettle _ h
  | updateTraffic id bytesIn bytesOut => exact hsettle _ h
  | remove id => exact hsettle _ h

/-- The error of a look-up is the one that it is answered with. -/
theorem error?_perform_get {id : String} :
    (r.perform now (.get id)).2.error? = some e ↔ r.get now id = .error e := by
  rw [perform]
  cases r.get now id <;> simp [Outcome.error?]

/-- The error of getting or creating is the one that it is answered with. -/
theorem error?_perform_getOrCreate {s : Session} :
    (r.perform now (.getOrCreate s)).2.error? = some e ↔ r.getOrCreate now s = .error e := by
  rw [perform]
  cases r.getOrCreate now s <;> simp [Outcome.error?]

/-- An attempt fails with an error exactly for its cause. -/
theorem error?_perform_iff :
    (r.perform now a.operation).2.error? = some e ↔ a.Cause r now e := by
  cases a with
  | add s =>
    rw [operation, perform, error?_settle, add_eq_error_iff, validate_eq_error_iff]
    rcases e with (_ | _) | _ | _ | _ <;> simp [Cause]
  | get id =>
    rw [operation, error?_perform_get, get_eq_error_iff, requireId_eq_error_iff, live_eq_error_iff]
    rcases e with (_ | _) | _ | _ | _ <;> simp [Cause, and_left_comm]
  | getOrCreate s =>
    rw [operation, error?_perform_getOrCreate, getOrCreate_eq_error_iff, validate_eq_error_iff]
    rcases e with (_ | _) | _ | _ | _ <;> simp [Cause]
  | update id change =>
    rw [operation, perform, error?_settle, update_eq_error_iff, get_eq_error_iff,
      requireId_eq_error_iff, live_eq_error_iff]
    rcases e with (_ | _) | _ | _ | _ <;>
      simp [Cause, and_left_comm, and_assoc, get_eq_ok_iff, live_eq_ok_iff,
        DraftChange.draft_eq_error_iff]
  | updateTraffic id bytesIn bytesOut =>
    rw [operation, perform, error?_settle, Registry.updateTraffic, update_eq_error_iff,
      get_eq_error_iff, requireId_eq_error_iff, live_eq_error_iff]
    rcases e with (_ | _) | _ | _ | _ <;> simp [Cause, and_left_comm]
  | remove id =>
    rw [operation, perform, error?_settle, remove_eq_error_iff, requireId_eq_error_iff]
    rcases e with (_ | _) | _ | _ | _ <;> simp [Cause]

end Attempt

/-- **Failed operations leave no trace.** Whatever the registry holds, live, expired or none at all,
an operation in place does what the operation does; it fails with an error exactly for the cause of
that error; and then the registry is exactly what it was. -/
theorem failed_attempt_leaves_registry (a : Attempt) (r : Registry) (now : Instant) :
    a.execute now r = r.perform now a.operation ∧
      ∀ e, ((a.execute now r).2.error? = some e ↔ a.Cause r now e) ∧
        ((a.execute now r).2.error? = some e → (a.execute now r).1 = r) := by
  have hsame := a.execute_eq_perform now r
  refine ⟨hsame, fun e => ⟨?_, fun h => ?_⟩⟩
  · rw [hsame]
    exact Attempt.error?_perform_iff
  · rw [hsame] at h ⊢
    exact Attempt.perform_fst_of_error h

/-- A session that is live at 3, and one that has expired. -/
def halfExpired : Registry :=
  ((Registry.new (some ⟨5⟩)).put { id := "s1", username := "alice", expiresAt := some ⟨6⟩ }).put
    { id := "s2", username := "bob", expiresAt := some ⟨2⟩ }

/-- A change that writes over the whole draft before it gives up. -/
def scribble : DraftChange := fun _ => ({ id := "s2", username := "mallory" }, .error "refused")

/-- The draft is dropped with whatever it holds, and the expired session stays where it is. -/
theorem scribbled_draft_dropped :
    ((Attempt.update "s1" scribble).execute ⟨3⟩ halfExpired).2.error? =
        some (.updateFailed "s1" "refused") ∧
      ((Attempt.update "s1" scribble).execute ⟨3⟩ halfExpired).1 = halfExpired := by
  obtain ⟨-, hfails⟩ := failed_attempt_leaves_registry (.update "s1" scribble) halfExpired ⟨3⟩
  obtain ⟨hcause, hkept⟩ := hfails (.updateFailed "s1" "refused")
  have hlive : halfExpired.sessions.find? "s1" =
      some { id := "s1", username := "alice", expiresAt := some ⟨6⟩ } := rfl
  have herror := hcause.mpr ⟨rfl, by decide, scribble, _, rfl, ⟨hlive, rfl⟩, rfl⟩
  exact ⟨herror, hkept herror⟩

end Registry

end GatewayAgent
