import GatewayAgent.Proofs.Session.Run
import GatewayAgent.Proofs.Session.Statistics
import Mathlib.Data.Multiset.Basic

/-!
# Sweeps are not noticed

A sweep removes only what no reader sees any more. Two registries have the *same live sessions* at
an instant if a look-up of live sessions tells them apart by no identifier (`SameLive`). This is
kept by time passing, by a sweep of one of the two, and by every operation on both; and what an
operation returns, as far as `observe` looks, is the same for both. So runs that differ only in
their sweeps are observed alike (`observations_eq_of_unswept_eq`).

What `observe` does not look at is whether a removal found something, and the number of sessions
that were removed; and a session that is not there is not told from one that has expired.
-/

namespace GatewayAgent

/-- An error that does not tell whether a session has expired or is not there. -/
def SessionError.blur : SessionError → SessionError
  | .expired id => .notFound id
  | e => e

namespace Registry

/-! ### Observations -/

/-- What is observed of an operation. -/
inductive Observation where
  | done (result : Except SessionError Unit)
  | found (result : Except SessionError Session)
  | provided (result : Except SessionError (Session × Bool))
  | flag (b : Bool)
  | sessions (l : Multiset Session)
  | number (n : Nat)
  | totals (sessions : Nat) (bytesIn bytesOut : UInt64) (sessionsByUser : String → Option Nat)
  | nothing

/-- An outcome up to the order in which sessions are listed and users are counted. -/
def Outcome.unordered : Outcome → Observation
  | .done result => .done result
  | .found result => .found result
  | .provided result => .provided result
  | .flag b => .flag b
  | .sessions l => .sessions l
  | .number n => .number n
  | .totals t => .totals t.totalSessions t.totalBytesIn t.totalBytesOut t.sessionsByUser.find?

/-- What is observed of the outcome of an operation. -/
def observe : Operation → Outcome → Observation
  | .get _, .found result => .found (result.mapError SessionError.blur)
  | .update _ _, .done result => .done (result.mapError SessionError.blur)
  | .updateTraffic _ _ _, .done result => .done (result.mapError SessionError.blur)
  | .remove _, _ => .nothing
  | .removeByUsername _, _ => .nothing
  | .sweep, _ => .nothing
  | _, out => out.unordered

/-- To set the traffic is seen as the update that it is. -/
theorem observe_updateTraffic {id : String} {bytesIn bytesOut : UInt64}
    {change : Session → Except String Session} (out : Outcome) :
    observe (.updateTraffic id bytesIn bytesOut) out = observe (.update id change) out := by
  cases out <;> rfl

/-- Whether a step is a sweep. -/
def Step.isSweep (step : Step) : Bool :=
  match step.op with
  | .sweep => true
  | _ => false

/-- A step is a sweep if that is its operation. -/
theorem Step.op_of_isSweep {step : Step} (h : step.isSweep = true) : step.op = .sweep := by
  rw [isSweep] at h
  split at h
  · assumption
  · exact absurd h Bool.false_ne_true

/-- A run without its sweeps. -/
def unswept (run : List Step) : List Step := run.filter fun step => !step.isSweep

/-- What is observed of a run: of each step that is not a sweep, its outcome. -/
def observations (r : Registry) (run : List Step) : List Observation :=
  ((r.events run).filter fun x => !x.step.isSweep).map fun x => observe x.step.op x.outcome

/-! ### Live sessions -/

/-- The live session under an identifier, if there is one. -/
def live? (r : Registry) (now : Instant) (id : String) : Option Session :=
  (r.sessions.find? id).filter fun s => !s.isExpiredAt now

/-- Nothing tells the live sessions of two registries apart. -/
structure SameLive (now : Instant) (r r' : Registry) : Prop where
  ttl : r.ttl = r'.ttl
  live : ∀ id, r.live? now id = r'.live? now id

variable {r r' : Registry} {now later : Instant} {id username : String} {s : Session}

/-- What is live can be got. -/
theorem live?_eq_some_iff : r.live? now id = some s ↔ r.live now id = .ok s := by
  rw [live?, live_eq_ok_iff, Option.filter_eq_some_iff]
  simp

/-- What is live later is what is live now and has not expired until then. -/
theorem live?_of_le (h : now ≤ later) :
    r.live? later id = (r.live? now id).filter fun s => !s.isExpiredAt later := by
  rw [live?, live?, Option.filter_filter]
  refine congrArg (Option.filter · _) (funext fun s => ?_)
  cases hlater : s.isExpiredAt later with
  | true => simp
  | false =>
    cases hnow : s.isExpiredAt now with
    | true => simp [Session.isExpiredAt_mono h hnow] at hlater
    | false => rfl

/-- A sweep takes away nothing that is live, now or later. -/
theorem live?_sweep (h : now ≤ later) : (r.sweep now).1.live? later id = r.live? later id := by
  rw [live?, find?_sweep]
  exact (live?_of_le h).symm

/-- What is put in is live under its id if it is not expired. -/
theorem live?_put (r : Registry) (s : Session) :
    (r.put s).live? now id =
      if id = s.id then (some s).filter fun s => !s.isExpiredAt now else r.live? now id := by
  rw [live?, find?_put]
  split_ifs <;> rfl

/-- Of what is live, the removal of a user's sessions takes away the user's. -/
theorem live?_removeByUsername :
    (r.removeByUsername username).1.live? now id =
      (r.live? now id).filter fun s => s.username ≠ username := by
  rw [live?, live?, find?_removeByUsername, Option.filter_filter, Option.filter_filter]
  exact congrArg (Option.filter · _) (funext fun s => Bool.and_comm _ _)

/-- A removal takes away what is live under the id, whether it succeeds or not. -/
theorem live?_settle_remove {id' : String} :
    (r.settle (r.remove id)).1.live? now id' =
      if id' = id ∧ id ≠ "" then none else r.live? now id' := by
  rw [live?, find?_settle_remove]
  split_ifs <;> rfl

/-- Where nothing is live, the error is that of an unknown session once expired and unknown are not
told apart. -/
theorem blur_of_live_eq_error {e : SessionError} (h : r.live now id = .error e) :
    e.blur = .notFound id := by
  rw [live] at h
  split at h
  · rw [← Except.error.inj h]
    rfl
  · split_ifs at h
    rw [← Except.error.inj h]
    rfl

/-- A sweep leaves what is listed. -/
theorem values_sweep : (r.sweep now).1.sessions.values = r.list now := by
  rw [list, Dictionary.values, Dictionary.values, List.filter_map]
  rfl

namespace SameLive

/-- Every registry has the same live sessions as itself. -/
protected theorem refl (now : Instant) (r : Registry) : SameLive now r r := ⟨rfl, fun _ => rfl⟩

/-- What has the same live sessions now has them later. -/
theorem of_le (h : SameLive now r r') (hle : now ≤ later) : SameLive later r r' :=
  ⟨h.ttl, fun id => by rw [live?_of_le hle, live?_of_le hle, h.live]⟩

/-- A sweep of one of the two is not noticed. -/
theorem sweep_left (h : SameLive now r r') : SameLive now (r.sweep now).1 r' :=
  ⟨h.ttl, fun id => (live?_sweep (Instant.le_refl now)).trans (h.live id)⟩

/-- A sweep of both leaves the same live sessions. -/
theorem sweep (h : SameLive now r r') : SameLive now (r.sweep now).1 (r'.sweep now).1 :=
  ⟨h.ttl, fun id => by
    rw [live?_sweep (Instant.le_refl now), live?_sweep (Instant.le_refl now), h.live]⟩

/-- A session put into both leaves the same live sessions. -/
theorem put (h : SameLive now r r') (s : Session) : SameLive now (r.put s) (r'.put s) :=
  ⟨h.ttl, fun id => by rw [live?_put, live?_put, h.live]⟩

/-- The removal of a user from both leaves the same live sessions. -/
theorem removeByUsername (h : SameLive now r r') (username : String) :
    SameLive now (r.removeByUsername username).1 (r'.removeByUsername username).1 :=
  ⟨h.ttl, fun id => by rw [live?_removeByUsername, live?_removeByUsername, h.live]⟩

/-- A removal from both leaves the same live sessions. -/
theorem settle_remove (h : SameLive now r r') (id : String) :
    SameLive now (r.settle (r.remove id)).1 (r'.settle (r'.remove id)).1 :=
  ⟨(r.ttl_settle_remove id).trans (h.ttl.trans (r'.ttl_settle_remove id).symm),
    fun id' => by rw [live?_settle_remove, live?_settle_remove, h.live]⟩

/-- Two registries have the same live sessions when both are cleared. -/
theorem clear (h : SameLive now r r') : SameLive now r.clear r'.clear := ⟨h.ttl, fun _ => rfl⟩

/-- A look-up finds the same session in both, or none in either. -/
theorem live_cases (h : SameLive now r r') (id : String) :
    (∃ s, r.live now id = .ok s ∧ r'.live now id = .ok s) ∨
      ∃ e e', r.live now id = .error e ∧ r'.live now id = .error e' ∧ e.blur = e'.blur := by
  cases hr : r.live now id with
  | ok s =>
    refine .inl ⟨s, rfl, ?_⟩
    rwa [← live?_eq_some_iff, ← h.live, live?_eq_some_iff]
  | error e =>
    cases hr' : r'.live now id with
    | ok s =>
      rw [← live?_eq_some_iff, ← h.live, live?_eq_some_iff, hr] at hr'
      exact absurd hr' (by simp)
    | error e' =>
      refine .inr ⟨e, e', rfl, rfl, ?_⟩
      rw [blur_of_live_eq_error hr, blur_of_live_eq_error hr']

/-- Registries with the same live sessions list the same, in some order. -/
theorem list_perm (h : SameLive now r r') : (r.list now).Perm (r'.list now) := by
  -- The live sessions are what a sweep would leave, and the look-ups determine that up to order.
  rw [← values_sweep, ← values_sweep]
  refine Dictionary.values_perm_of_find?_eq fun id => ?_
  rw [find?_sweep, find?_sweep]
  exact h.live id

/-- Registries with the same live sessions list the same for each user, in some order. -/
theorem listByUsername_perm (h : SameLive now r r') (username : String) :
    (r.listByUsername now username).Perm (r'.listByUsername now username) := by
  rw [listByUsername_eq_filter, listByUsername_eq_filter]
  exact h.list_perm.filter _

/-- Registries with the same live sessions give the same session, or both an error that is the same
but for an expiry. -/
theorem get_cases (h : SameLive now r r') (id : String) :
    (∃ s, r.get now id = .ok s ∧ r'.get now id = .ok s) ∨
      ∃ e e', r.get now id = .error e ∧ r'.get now id = .error e' ∧ e.blur = e'.blur := by
  rw [get, get]
  cases requireId id with
  | error e => exact .inr ⟨e, e, rfl, rfl, rfl⟩
  | ok u => exact h.live_cases id

end SameLive

/-! ### One operation -/

/-- After an operation on each of two registries: they have the same live sessions, and the two
outcomes are observed alike. -/
structure Alike (now : Instant) (op : Operation) (a b : Registry × Outcome) : Prop where
  sameLive : SameLive now a.1 b.1
  observe_eq : observe op a.2 = observe op b.2

namespace SameLive

/-- An addition cannot tell two registries with the same live sessions apart. -/
theorem add (h : SameLive now r r') (s : Session) :
    Alike now (.add s) (r.perform now (.add s)) (r'.perform now (.add s)) := by
  simp only [perform, Registry.add, ← stamp_congr h.ttl now s]
  cases validate s with
  | error e => exact ⟨h, rfl⟩
  | ok u => exact ⟨h.put _, rfl⟩

/-- An update cannot tell two registries with the same live sessions apart. -/
theorem update (h : SameLive now r r') (id : String)
    (change : Session → Except String Session) :
    Alike now (.update id change) (r.perform now (.update id change))
      (r'.perform now (.update id change)) := by
  simp only [perform, Registry.update]
  cases requireId id with
  | error e => exact ⟨h, rfl⟩
  | ok u =>
    rcases h.live_cases id with ⟨s, hs, hs'⟩ | ⟨e, e', he, he', hblur⟩
    · simp only [hs, hs', bind, Except.bind]
      cases change s with
      | error reason => exact ⟨h, rfl⟩
      | ok draft =>
        have hput := h.put (r.commit now id draft)
        rw [Registry.put, Registry.put, id_commit] at hput
        nth_rewrite 2 [commit_congr h.ttl] at hput
        exact ⟨hput, rfl⟩
    · -- One side may have the session expired and the other swept out.
      simp only [he, he', bind, Except.bind]
      exact ⟨h, congrArg (fun e => Observation.done (.error e)) hblur⟩

/-- To get or create cannot tell two registries with the same live sessions apart. -/
theorem getOrCreate (h : SameLive now r r') (s : Session) :
    Alike now (.getOrCreate s) (r.perform now (.getOrCreate s))
      (r'.perform now (.getOrCreate s)) := by
  simp only [perform, Registry.getOrCreate, ← stamp_congr h.ttl now s]
  cases validate s with
  | error e => exact ⟨h, rfl⟩
  | ok u =>
    rcases h.live_cases s.id with ⟨t, ht, ht'⟩ | ⟨e, e', he, he', -⟩
    · simp only [ht, ht', bind, Except.bind]
      exact ⟨h, rfl⟩
    · -- Expired or gone, the session is recorded anew on both sides.
      simp only [he, he', bind, Except.bind]
      exact ⟨h.put _, rfl⟩

/-- The statistics cannot tell two registries with the same live sessions apart. -/
theorem statistics (h : SameLive now r r') :
    Alike now .statistics (r.perform now .statistics) (r'.perform now .statistics) := by
  have hsame : (r.statistics now).Same (r'.statistics now) := Statistics.same_of_perm h.list_perm
  refine ⟨h, ?_⟩
  change Observation.totals _ _ _ _ = Observation.totals _ _ _ _
  rw [hsame.totalSessions, hsame.totalBytesIn, hsame.totalBytesOut, funext hsame.sessionsByUser]

/-- **One operation on both.** Registries with the same live sessions keep them, and what an
operation returns is observed alike. -/
theorem perform (h : SameLive now r r') (op : Operation) :
    Alike now op (r.perform now op) (r'.perform now op) := by
  cases op with
  | add s => exact h.add s
  | get id =>
    refine ⟨h, ?_⟩
    rcases h.get_cases id with ⟨s, hs, hs'⟩ | ⟨e, e', he, he', hblur⟩
    · rw [Registry.perform, Registry.perform, hs, hs']
    · rw [Registry.perform, Registry.perform, he, he']
      exact congrArg (fun e => Observation.found (.error e)) hblur
  | contains id =>
    refine ⟨h, congrArg Observation.flag ?_⟩
    rw [Registry.contains, Registry.contains]
    rcases h.get_cases id with ⟨s, hs, hs'⟩ | ⟨e, e', he, he', -⟩
    · rw [hs, hs']
    · rw [he, he']
      rfl
  | list => exact ⟨h, congrArg Observation.sessions (Multiset.coe_eq_coe.mpr h.list_perm)⟩
  | listByUsername username =>
    exact ⟨h, congrArg Observation.sessions
      (Multiset.coe_eq_coe.mpr (h.listByUsername_perm username))⟩
  | count =>
    refine ⟨h, congrArg Observation.number ?_⟩
    rw [count_eq_length, count_eq_length, h.list_perm.length_eq]
  | countByUsername username =>
    refine ⟨h, congrArg Observation.number ?_⟩
    rw [countByUsername_eq_length, countByUsername_eq_length,
      (h.listByUsername_perm username).length_eq]
  | statistics => exact h.statistics
  | getOrCreate s => exact h.getOrCreate s
  | update id change => exact h.update id change
  | updateTraffic id bytesIn bytesOut =>
    have hupdate := h.update id fun s => .ok { s with bytesIn, bytesOut }
    refine ⟨hupdate.sameLive, ?_⟩
    rw [observe_updateTraffic, observe_updateTraffic]
    exact hupdate.observe_eq
  | remove id => exact ⟨h.settle_remove id, rfl⟩
  | removeByUsername username => exact ⟨h.removeByUsername username, rfl⟩
  | clear => exact ⟨h.clear, rfl⟩
  | sweep => exact ⟨h.sweep, rfl⟩

end SameLive

/-! ### Runs -/

variable {run run' : List Step}

/-- A sweep is not observed; every other step is. -/
theorem observations_cons (r : Registry) (step : Step) (run : List Step) :
    r.observations (step :: run) =
      if step.isSweep then (r.perform step.now step.op).1.observations run
      else observe step.op (r.perform step.now step.op).2 ::
        (r.perform step.now step.op).1.observations run := by
  rw [observations, events_cons, List.filter_cons]
  cases step.isSweep <;> rfl

/-- A run is observed like the same run without its sweeps on a registry with the same live
sessions. -/
theorem observations_eq_unswept (hrun : Chronological run) (hnow : ∀ step ∈ run, now ≤ step.now)
    (h : SameLive now r r') : r.observations run = r'.observations (unswept run) := by
  induction run generalizing now r r' with
  | nil => rfl
  | cons step run ih =>
    obtain ⟨hlater, hrun⟩ := List.pairwise_cons.mp hrun
    have hstep : SameLive step.now r r' := h.of_le (hnow step List.mem_cons_self)
    rw [observations_cons]
    cases hsweep : step.isSweep with
    | true =>
      have hunswept : unswept (step :: run) = unswept run := by simp [unswept, hsweep]
      -- The sweep is a step of this side only, and it is not observed.
      rw [if_pos rfl, hunswept, Step.op_of_isSweep hsweep]
      exact ih hrun hlater hstep.sweep_left
    | false =>
      have hunswept : unswept (step :: run) = step :: unswept run := by simp [unswept, hsweep]
      -- Both sides take the step.
      have halike := hstep.perform step.op
      rw [hunswept, observations_cons, hsweep, if_neg Bool.false_ne_true,
        if_neg Bool.false_ne_true, halike.observe_eq, ih hrun hlater halike.sameLive]

/-- **Sweeps are not observed.** Whatever a registry holds and however long its sessions live, two
runs that differ only in their sweeps are observed alike. -/
theorem observations_eq_of_unswept_eq (r : Registry) (hrun : Chronological run)
    (hrun' : Chronological run') (h : unswept run = unswept run') :
    r.observations run = r.observations run' := by
  have hunswept : ∀ {run}, Chronological run →
      r.observations run = r.observations (unswept run) := by
    intro run hrun
    cases run with
    | nil => rfl
    | cons step run =>
      refine observations_eq_unswept hrun (fun later hlater => ?_) (.refl step.now r)
      rcases List.mem_cons.mp hlater with rfl | hlater
      · exact Instant.le_refl _
      · exact (List.pairwise_cons.mp hrun).1 later hlater
  rw [hunswept hrun, hunswept hrun', h]

/-- A session is recorded and asked for when it has expired. -/
def overdue : List Step :=
  [{ now := ⟨10⟩, op := .add { id := "s1", username := "alice" } },
    { now := ⟨13⟩, op := .get "s1" }]

/-- In between, it has been swept out. -/
def overdueSwept : List Step :=
  [{ now := ⟨10⟩, op := .add { id := "s1", username := "alice" } },
    { now := ⟨12⟩, op := .sweep },
    { now := ⟨13⟩, op := .get "s1" }]

/-- Whether the expired session was swept out or not, it is merely unavailable. -/
theorem observations_overdueSwept :
    (Registry.new (some ⟨1⟩)).observations overdueSwept =
        (Registry.new (some ⟨1⟩)).observations overdue ∧
      (Registry.new (some ⟨1⟩)).observations overdue =
        [.done (.ok ()), .found (.error (.notFound "s1"))] := by
  refine ⟨observations_eq_of_unswept_eq _ ?_ ?_ rfl, rfl⟩
  · unfold Chronological overdueSwept
    decide
  · unfold Chronological overdue
    decide

end Registry

end GatewayAgent
