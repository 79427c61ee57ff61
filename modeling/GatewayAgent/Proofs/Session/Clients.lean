import GatewayAgent.Proofs.Session.Run
import Mathlib.Algebra.BigOperators.Group.Finset.Basic
import Mathlib.Data.Fintype.Basic
import Mathlib.Data.List.Induction
import Mathlib.Data.Set.BooleanAlgebra
import Mathlib.Order.CompletePartialOrder

/-!
# Clients that share a registry

Several clients use one registry, each for sessions of its own. Their operations are executed one at
a time, in any order. `clients_do_not_interfere` says that no client notices the others: every
operation returns what it would return if its client were alone, the client's sessions end up the
same, and the number of entries changes by what all clients together would change it alone.

An operation on one session goes by the entry under one identifier. So two registries that agree
under an identifier answer it alike and agree afterwards (`AgreeOn.perform`), and what is under
other identifiers stays as it is (`find?_perform_of_ne`).
-/

namespace GatewayAgent

namespace Registry

/-- The identifier of the session that an operation is about, if it is about one. -/
def Operation.subject? : Operation → Option String
  | .add s | .getOrCreate s => some s.id
  | .get id | .contains id | .update id _ | .updateTraffic id _ _ | .remove id => some id
  | _ => none

/-- Two registries have the same time to live and the same entries under some identifiers. -/
structure AgreeOn (ids : Set String) (r r' : Registry) : Prop where
  ttl_eq : r.ttl = r'.ttl
  find?_eq : ∀ id ∈ ids, r.sessions.find? id = r'.sessions.find? id

variable {ids : Set String} {id id' : String} {r r' r'' : Registry} {now : Instant} {op : Operation}

/-! ### An operation on one session -/

namespace AgreeOn

/-- Every registry agrees with itself. -/
protected theorem refl (ids : Set String) (r : Registry) : AgreeOn ids r r := ⟨rfl, fun _ _ => rfl⟩

/-- Registries that agree on an id have the same live session under it. -/
theorem live_eq (h : AgreeOn ids r r') (hid : id ∈ ids) (now : Instant) :
    r.live now id = r'.live now id := by
  rw [live, live, h.find?_eq id hid]

/-- A session put into both keeps the agreement. -/
theorem put (h : AgreeOn ids r r') (s : Session) : AgreeOn ids (r.put s) (r'.put s) :=
  ⟨h.ttl_eq, fun id hid => by rw [find?_put, find?_put, h.find?_eq id hid]⟩

/-- A removal from both keeps the agreement. -/
theorem settle_remove (h : AgreeOn ids r r') (id : String) :
    AgreeOn ids (r.settle (r.remove id)).1 (r'.settle (r'.remove id)).1 :=
  ⟨(r.ttl_settle_remove id).trans (h.ttl_eq.trans (r'.ttl_settle_remove id).symm),
    fun id' hid' => by rw [find?_settle_remove, find?_settle_remove, h.find?_eq id' hid']⟩

/-- After an operation on each of two registries: both have returned the same, and they agree. -/
structure Same (ids : Set String) (a b : Registry × Outcome) : Prop where
  agree : AgreeOn ids a.1 b.1
  outcome_eq : a.2 = b.2

/-- An update of a session on which registries agree does the same to both. -/
theorem same_update (h : AgreeOn ids r r') (hid : id ∈ ids) (now : Instant)
    (change : Session → Except String Session) :
    Same ids (r.settle (r.update now id change)) (r'.settle (r'.update now id change)) := by
  rw [update, update, h.live_eq hid]
  cases requireId id with
  | error e => exact ⟨h, rfl⟩
  | ok u =>
    cases r'.live now id with
    | error e => exact ⟨h, rfl⟩
    | ok s =>
      simp only [bind, Except.bind]
      cases change s with
      | error reason => exact ⟨h, rfl⟩
      | ok draft =>
        have hput := h.put (r.commit now id draft)
        rw [Registry.put, Registry.put, id_commit] at hput
        nth_rewrite 2 [commit_congr h.ttl_eq] at hput
        exact ⟨hput, rfl⟩

/-- A removal of a session on which registries agree does the same to both. -/
theorem same_remove (h : AgreeOn ids r r') (hid : id ∈ ids) :
    Same ids (r.settle (r.remove id)) (r'.settle (r'.remove id)) := by
  refine ⟨h.settle_remove id, ?_⟩
  rw [remove, remove, Dictionary.contains, Dictionary.contains, h.find?_eq id hid]
  cases requireId id with
  | error e => rfl
  | ok u => cases r'.sessions.find? id <;> rfl

/-- An addition does the same to registries that agree. -/
theorem same_add (h : AgreeOn ids r r') (now : Instant) (s : Session) :
    Same ids (r.perform now (.add s)) (r'.perform now (.add s)) := by
  simp only [Registry.perform, Registry.add, ← stamp_congr h.ttl_eq now s]
  cases validate s with
  | error e => exact ⟨h, rfl⟩
  | ok u => exact ⟨h.put _, rfl⟩

/-- To get or create a session on which registries agree does the same to both. -/
theorem same_getOrCreate {s : Session} (h : AgreeOn ids r r') (hid : s.id ∈ ids) (now : Instant) :
    Same ids (r.perform now (.getOrCreate s)) (r'.perform now (.getOrCreate s)) := by
  simp only [Registry.perform, Registry.getOrCreate, ← stamp_congr h.ttl_eq now s, h.live_eq hid]
  cases validate s with
  | error e => exact ⟨h, rfl⟩
  | ok u =>
    cases r'.live now s.id with
    | error e => exact ⟨h.put _, rfl⟩
    | ok found => exact ⟨h, rfl⟩

/-- An operation on one session that two registries agree about. -/
theorem perform (h : AgreeOn ids r r') (hop : op.subject? = some id) (hid : id ∈ ids)
    (now : Instant) : Same ids (r.perform now op) (r'.perform now op) := by
  cases op with
  | add s => exact h.same_add now s
  | getOrCreate s =>
    obtain rfl : s.id = id := Option.some.inj hop
    exact h.same_getOrCreate hid now
  | get key | contains key =>
    obtain rfl : key = id := Option.some.inj hop
    exact ⟨h, by simp only [Registry.perform, Registry.contains, Registry.get, h.live_eq hid]⟩
  | update key change =>
    obtain rfl : key = id := Option.some.inj hop
    exact h.same_update hid now change
  | updateTraffic key bytesIn bytesOut =>
    obtain rfl : key = id := Option.some.inj hop
    exact h.same_update hid now _
  | remove key =>
    obtain rfl : key = id := Option.some.inj hop
    exact h.same_remove hid
  | _ => cases hop

end AgreeOn

/-- An operation on one session leaves all others alone, also where an update tries to take another
identifier. -/
theorem find?_perform_of_ne (hop : op.subject? = some id) (hne : id' ≠ id) :
    (r.perform now op).1.sessions.find? id' = r.sessions.find? id' := by
  have hupdate : ∀ change, (r.settle (r.update now id change)).1.sessions.find? id' =
      r.sessions.find? id' := by
    intro change
    cases hr : r.update now id change with
    | error e => rfl
    | ok left =>
      obtain ⟨-, s, draft, -, -, rfl⟩ := update_eq_ok_iff.mp hr
      rw [settle, find?_put, id_commit, if_neg hne]
  cases op with
  | add s =>
    obtain rfl : s.id = id := Option.some.inj hop
    cases hr : r.add now s with
    | error e => simp [perform, hr, settle]
    | ok left =>
      obtain ⟨-, rfl⟩ := add_eq_ok_iff.mp hr
      rw [perform, hr, settle, find?_put, id_stamp, if_neg hne]
  | getOrCreate s =>
    obtain rfl : s.id = id := Option.some.inj hop
    cases hr : r.getOrCreate now s with
    | error e => simp [perform, hr]
    | ok result =>
      obtain ⟨left, found, created⟩ := result
      obtain ⟨-, ⟨-, rfl, -⟩ | ⟨-, rfl, rfl, -⟩⟩ := getOrCreate_eq_ok_iff.mp hr
      · simp [perform, hr]
      · simp [perform, hr, find?_put, hne]
  | update key change =>
    obtain rfl : key = id := Option.some.inj hop
    exact hupdate change
  | updateTraffic key bytesIn bytesOut =>
    obtain rfl : key = id := Option.some.inj hop
    exact hupdate _
  | remove key =>
    obtain rfl : key = id := Option.some.inj hop
    rw [perform, find?_settle_remove, if_neg fun h => hne h.1]
  | get key | contains key => rfl
  | _ => cases hop

/-- An operation changes the number of entries by what it does under its own identifier. -/
theorem size_perform (r : Registry) (now : Instant) (hop : op.subject? = some id) :
    (r.perform now op).1.sessions.size + (r.sessions.find? id).toList.length =
      r.sessions.size + ((r.perform now op).1.sessions.find? id).toList.length :=
  Dictionary.size_add_of_find?_eq fun _ hne => find?_perform_of_ne hop hne

/-! ### Runs -/

section Runs

variable {ι : Type} [DecidableEq ι] {c : ι} {sets : ι → Set String} {x : ι × Step}
  {run : List (ι × Step)}

/-- Every step of the run is about a session of the client that takes it. -/
def Confined (sets : ι → Set String) (run : List (ι × Step)) : Prop :=
  ∀ x ∈ run, ∃ id ∈ sets x.1, x.2.op.subject? = some id

/-- The steps of one client. -/
def own (c : ι) (run : List (ι × Step)) : List Step := (run.filter fun x => x.1 = c).map Prod.snd

/-- What the steps of one client are in a run of all clients. -/
def ownEvents (c : ι) (r : Registry) (run : List (ι × Step)) : List Event :=
  ((run.zip (r.events (run.map Prod.snd))).filter fun x => x.1.1 = c).map Prod.snd

/-- Two steps are the same, return the same, and leave the same under some identifiers. -/
structure Event.SeenAlike (ids : Set String) (x y : Event) : Prop where
  step_eq : x.step = y.step
  outcome_eq : x.outcome = y.outcome
  left_agree : AgreeOn ids x.left y.left

/-- A step of a client is the first of its own. -/
theorem own_cons : own c (x :: run) = if x.1 = c then x.2 :: own c run else own c run := by
  rw [own, own, List.filter_cons]
  by_cases h : x.1 = c <;> simp [h]

/-- The last step of a run is the last of its client's own. -/
theorem own_snoc : own c (run ++ [x]) = own c run ++ if x.1 = c then [x.2] else [] := by
  rw [own, own, List.filter_append, List.map_append]
  by_cases h : x.1 = c <;> simp [h]

/-- A step of a client goes on record as its own. -/
theorem ownEvents_cons :
    ownEvents c r (x :: run) =
      if x.1 = c then ⟨x.2, r⟩ :: ownEvents c (r.perform x.2.now x.2.op).1 run
      else ownEvents c (r.perform x.2.now x.2.op).1 run := by
  rw [ownEvents, ownEvents, List.map_cons, events_cons, List.zip_cons_cons, List.filter_cons]
  by_cases h : x.1 = c <;> simp [h]

/-- The steps of a confined client are about its own ids. -/
theorem Confined.own (h : Confined sets run) {step : Step} (hstep : step ∈ own c run) :
    ∃ id ∈ sets c, step.op.subject? = some id := by
  obtain ⟨x, hx, rfl⟩ := List.mem_map.mp hstep
  obtain ⟨hx, hc⟩ := List.mem_filter.mp hx
  exact of_decide_eq_true hc ▸ h x hx

/-- What no step is about stays as it is. -/
theorem agreeOn_after_compl {steps : List Step}
    (h : ∀ step ∈ steps, ∃ id ∈ ids, step.op.subject? = some id) :
    AgreeOn idsᶜ (r.after steps) r := by
  induction steps using List.reverseRecOn with
  | nil => exact .refl _ r
  | append_singleton steps step ih =>
    obtain ⟨id, hid, hop⟩ := h step (by simp)
    have hbefore := ih fun step hstep => h step (List.mem_append_left _ hstep)
    rw [after_snoc]
    refine ⟨(ttl_perform ..).trans hbefore.ttl_eq, fun id' hid' => ?_⟩
    have hne : id' ≠ id := fun heq => hid' (heq ▸ hid)
    rw [find?_perform_of_ne hop hne, hbefore.find?_eq id' hid']

/-- A client's part of a run goes as it would on a registry that agrees about the client's
sessions. -/
theorem AgreeOn.along_run (hsets : Pairwise fun c d => Disjoint (sets c) (sets d))
    (hrun : Confined sets run) (h : AgreeOn (sets c) r r') :
    List.Forall₂ (Event.SeenAlike (sets c)) (ownEvents c r run) (r'.events (own c run)) ∧
      AgreeOn (sets c) (r.after (run.map Prod.snd)) (r'.after (own c run)) := by
  induction run generalizing r r' with
  | nil => exact ⟨.nil, h⟩
  | cons x run ih =>
    obtain ⟨⟨id, hid, hop⟩, hrest⟩ := List.forall_mem_cons.mp hrun
    rw [ownEvents_cons, own_cons]
    by_cases hc : x.1 = c
    · -- The client takes a step on both sides.
      rw [if_pos hc, if_pos hc]
      have hsame := h.perform hop (hc ▸ hid) x.2.now
      obtain ⟨halike, hleft⟩ := ih hrest hsame.agree
      exact ⟨.cons ⟨rfl, hsame.outcome_eq, hsame.agree⟩ halike, hleft⟩
    · -- The step is another client's, and not about a session of this one.
      rw [if_neg hc, if_neg hc]
      refine ih hrest ⟨(ttl_perform ..).trans h.ttl_eq, fun id' hid' => ?_⟩
      have hne : id' ≠ id := fun heq => Set.disjoint_left.mp (hsets hc) hid (heq ▸ hid')
      rw [find?_perform_of_ne hop hne, h.find?_eq id' hid']

/-- The number of entries changes by what all clients together would change it alone. -/
theorem size_after [Fintype ι] (hsets : Pairwise fun c d => Disjoint (sets c) (sets d))
    (hrun : Confined sets run) :
    ((r.after (run.map Prod.snd)).sessions.size - r.sessions.size : ℤ) =
      ∑ c, ((r.after (own c run)).sessions.size - r.sessions.size : ℤ) := by
  induction run using List.reverseRecOn with
  | nil => simp [own, after]
  | append_singleton run x ih =>
    obtain ⟨id, hid, hop⟩ := hrun x (by simp)
    have hbefore : Confined sets run := fun y hy => hrun y (List.mem_append_left _ hy)
    have hagree := ((AgreeOn.refl (sets x.1) r).along_run hsets hbefore).2
    -- The last step changes as many entries here as where its client is alone.
    have hstep : ((r.after ((run ++ [x]).map Prod.snd)).sessions.size : ℤ) -
          (r.after (run.map Prod.snd)).sessions.size =
        (r.after (own x.1 (run ++ [x]))).sessions.size - (r.after (own x.1 run)).sessions.size := by
      have hall := size_perform (r.after (run.map Prod.snd)) x.2.now hop
      have halone := size_perform (r.after (own x.1 run)) x.2.now hop
      rw [hagree.find?_eq id hid,
        (hagree.perform hop hid x.2.now).agree.find?_eq id hid] at hall
      rw [own_snoc, if_pos rfl, List.map_append, List.map_singleton, after_snoc, after_snoc]
      omega
    -- For all other clients nothing changes.
    have hothers : ∑ c, (((r.after (own c (run ++ [x]))).sessions.size : ℤ) -
          (r.after (own c run)).sessions.size) =
        (r.after (own x.1 (run ++ [x]))).sessions.size -
          (r.after (own x.1 run)).sessions.size := by
      refine Finset.sum_eq_single x.1 (fun c _ hc => ?_) fun hx => absurd (Finset.mem_univ _) hx
      rw [own_snoc, if_neg hc.symm, List.append_nil, sub_self]
    calc ((r.after ((run ++ [x]).map Prod.snd)).sessions.size - r.sessions.size : ℤ)
        = ((r.after ((run ++ [x]).map Prod.snd)).sessions.size -
              (r.after (run.map Prod.snd)).sessions.size) +
            ((r.after (run.map Prod.snd)).sessions.size - r.sessions.size) := by omega
      _ = ∑ c, (((r.after (own c (run ++ [x]))).sessions.size : ℤ) -
              (r.after (own c run)).sessions.size) +
            ∑ c, ((r.after (own c run)).sessions.size - r.sessions.size : ℤ) := by
          rw [hstep, hothers, ih hbefore]
      _ = ∑ c, ((r.after (own c (run ++ [x]))).sessions.size - r.sessions.size : ℤ) := by
          rw [← Finset.sum_add_distrib]
          exact Finset.sum_congr rfl fun c _ => by omega

/-- **Clients do not interfere.** Clients with sessions of their own may take their steps in any
order. Every step of a client returns and leaves what it does where its client is alone, and so do
all of them: of each client's sessions the registry holds in the end what the client would have
left alone, which touches no others; and the number of entries has changed by the sum of what each
client changes alone. -/
theorem clients_do_not_interfere [Fintype ι]
    (hsets : Pairwise fun c d => Disjoint (sets c) (sets d)) (r : Registry)
    (hrun : Confined sets run) :
    (∀ c, List.Forall₂ (Event.SeenAlike (sets c)) (ownEvents c r run) (r.events (own c run))) ∧
      (∀ c, AgreeOn (sets c) (r.after (run.map Prod.snd)) (r.after (own c run))) ∧
      (∀ c, AgreeOn (sets c)ᶜ (r.after (own c run)) r) ∧
      ((r.after (run.map Prod.snd)).sessions.size - r.sessions.size : ℤ) =
        ∑ c, ((r.after (own c run)).sessions.size - r.sessions.size : ℤ) :=
  ⟨fun c => ((AgreeOn.refl (sets c) r).along_run hsets hrun).1,
    fun c => ((AgreeOn.refl (sets c) r).along_run hsets hrun).2,
    fun _ => agreeOn_after_compl fun _ hstep => hrun.own hstep,
    size_after hsets hrun⟩

end Runs

/-- Two clients take turns. The second one asks for its session too early, and the first one tries
to turn its own session into that of the second. -/
def takingTurns : List (Bool × Step) :=
  [(false, { now := ⟨20⟩, op := .add { id := "s1", username := "alice" } }),
    (true, { now := ⟨21⟩, op := .updateTraffic "s2" 5 5 }),
    (true, { now := ⟨22⟩, op := .add { id := "s2", username := "bob" } }),
    (false, { now := ⟨22⟩, op := .update "s1" fun s => .ok { s with id := "s2" } }),
    (true, { now := ⟨23⟩, op := .updateTraffic "s2" 7 7 }),
    (false, { now := ⟨24⟩, op := .getOrCreate { id := "s1", username := "mallory" } })]

/-- The session of each of the two clients. -/
def ownSession : Bool → Set String
  | false => {"s1"}
  | true => {"s2"}

/-- The second client's session is what its second update made of it, and there are as many entries
as both clients have alone. -/
theorem taking_turns_keeps_apart :
    Pairwise (fun c d => Disjoint (ownSession c) (ownSession d)) ∧
      Confined ownSession takingTurns ∧
      (∃ s, ((Registry.new none).after (takingTurns.map Prod.snd)).sessions.find? "s2" = some s ∧
        s.username = "bob" ∧ s.bytesIn = 7 ∧
        ((Registry.new none).after (own true takingTurns)).sessions.find? "s2" = some s) ∧
      (((Registry.new none).after (takingTurns.map Prod.snd)).sessions.size : ℤ) =
        ∑ c, (((Registry.new none).after (own c takingTurns)).sessions.size : ℤ) := by
  have hsets : Pairwise fun c d => Disjoint (ownSession c) (ownSession d) := by
    intro c d hcd
    cases c <;> cases d <;> simp [ownSession] at hcd ⊢
  have hrun : Confined ownSession takingTurns := by
    simp [Confined, takingTurns, ownSession, Operation.subject?]
  obtain ⟨-, hagree, -, hsize⟩ := clients_do_not_interfere hsets (Registry.new none) hrun
  refine ⟨hsets, hrun, ⟨_, (hagree true).find?_eq "s2" rfl, rfl, rfl, rfl⟩, ?_⟩
  simpa [new, Dictionary.size, Dictionary.empty] using hsize

end Registry

end GatewayAgent
