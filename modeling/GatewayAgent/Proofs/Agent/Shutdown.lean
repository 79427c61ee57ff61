import GatewayAgent.Agent.Run
import Mathlib.Data.List.Basic

/-!
# How a run ends after a request to shut down

A request to shut down finds its run in one of two places (`Watches`): the server has not looked at
the state of the transport yet, which is still created, or it is serving. What the run ends with is
settled there (`EndsWith`). A server that is serving ends well, once its calls have ended or it is
told to drop them. A server that has not looked at the state yet is kept from starting, and the run
ends with this as an error, though nothing has failed.

Main statement: `run_of_shutdown`.
-/

namespace GatewayAgent

/-- The server fails by itself. -/
def RunEvent.IsFailure : RunEvent → Prop
  | server (.fails _) => True
  | server _ | shutdown | timeUp => False

/-- Whether the run looks at its server. -/
def RunEvent.isServerTurn : RunEvent → Bool
  | server _ => true
  | shutdown | timeUp => false

namespace AgentRun

variable {r : AgentRun} {event : RunEvent} {e : ServeEvent} {p next : ServePhase} {t : Transport}
  {result : Except TransportError Unit} {n : Nat}

/-! ### Single turns -/

theorem step_of_finished {result : Except AgentError Unit} (h : r.phase = .finished result)
    (event : RunEvent) : r.step event = r := by
  cases event <;> simp only [step, h]

theorem step_server (h : ∀ result, r.phase ≠ .finished result) (e : ServeEvent) :
    r.step (.server e) = r.serverTurn e := by
  cases hphase : r.phase with
  | finished result => exact absurd hphase (h result)
  | _ => simp only [step, hphase]

theorem serverTurn_of_none (hserver : r.server = none)
    (hbound : Transport.bind r.network r.endpoint = .ok ()) (e : ServeEvent) :
    r.serverTurn e = { r with server := some .starting } := by
  simp only [serverTurn, hserver, hbound]

theorem serverTurn_of_some (hserver : r.server = some p) (hstep : p.step r.transport e = (next, t))
    (hnext : ∀ result, next ≠ .returned result) :
    r.serverTurn e =
      { r with server := some next, transport := t,
               log := r.log ++ p.events r.transport next } := by
  simp only [serverTurn, hserver, hstep]

theorem serverTurn_of_returned (hserver : r.server = some p)
    (hstep : p.step r.transport e = (.returned result, t)) :
    r.serverTurn e =
      finish { r with server := some (.returned result), transport := t,
                      log := r.log ++ p.events r.transport (.returned result) }
        result := by
  simp only [serverTurn, hserver, hstep]

/-- The server does not take a run back to what it waited for before. -/
theorem phase_serverTurn (r : AgentRun) (e : ServeEvent) :
    (r.serverTurn e).phase = r.phase ∨ ∃ result, (r.serverTurn e).phase = .finished result := by
  simp only [serverTurn]
  cases r.server with
  | none =>
    cases Transport.bind r.network r.endpoint with
    | error cause => exact .inr ⟨_, rfl⟩
    | ok _ => exact .inl rfl
  | some p =>
    dsimp only
    split
    · exact .inr ⟨_, rfl⟩
    · exact .inl rfl

theorem phase_step_ne_draining (hwatching : r.phase ≠ .watching) (hdraining : r.phase ≠ .draining)
    (event : RunEvent) : (r.step event).phase ≠ .draining := by
  cases hphase : r.phase with
  | watching => exact absurd hphase hwatching
  | draining => exact absurd hphase hdraining
  | finished result => simp [step_of_finished hphase, hphase]
  | aborting =>
    cases event with
    | server e =>
      rw [step_server (by simp [hphase])]
      rcases phase_serverTurn r e with h | ⟨result, h⟩ <;> simp [h, hphase]
    | shutdown => simp [step, hphase]
    | timeUp => simp [step, hphase]

/-! ### Before the request -/

/-- A run that waits for its server or for a request, and whose server has not failed. -/
structure Watches (r : AgentRun) : Prop where
  phase : r.phase = .watching
  bound : Transport.bind r.network r.endpoint = .ok ()
  undisturbed : r.transport.shutdown = false ∧ r.transport.abort = false
  server : r.transport.state = .created ∧ (r.server = none ∨ r.server = some .starting) ∨
    r.transport.state = .listening ∧ r.server = some .serving

theorem Watches.step (h : r.Watches) (hevent : event ≠ .shutdown) (hfail : ¬event.IsFailure) :
    (r.step event).Watches := by
  obtain ⟨hphase, hbound, ⟨hshutdown, habort⟩, hserver⟩ := h
  cases event with
  | shutdown => exact absurd rfl hevent
  | timeUp =>
    simp only [AgentRun.step, hphase]
    exact ⟨hphase, hbound, ⟨hshutdown, habort⟩, hserver⟩
  | server e =>
    rw [step_server (by simp [hphase])]
    rcases hserver with ⟨hstate, hserver | hserver⟩ | ⟨hstate, hserver⟩
    · rw [serverTurn_of_none hserver hbound]
      exact ⟨hphase, hbound, ⟨hshutdown, habort⟩, .inl ⟨hstate, .inr rfl⟩⟩
    · have hstep : ServePhase.starting.step r.transport e =
          (.serving, { r.transport with state := .listening }) := by
        simp [ServePhase.step, Transport.tryStart, hstate]
      rw [serverTurn_of_some hserver hstep (by simp)]
      exact ⟨hphase, hbound, ⟨hshutdown, habort⟩, .inr ⟨rfl, rfl⟩⟩
    · have hstep : ServePhase.serving.step r.transport e = (.serving, r.transport) := by
        cases e with
        | fails reason => exact absurd trivial hfail
        | idle => simp [ServePhase.step, hshutdown, habort]
        | busy => simp [ServePhase.step, habort]
      rw [serverTurn_of_some hserver hstep (by simp)]
      exact ⟨hphase, hbound, ⟨hshutdown, habort⟩, .inr ⟨hstate, rfl⟩⟩

theorem Watches.run (h : r.Watches) {events : List RunEvent} (hfirst : .shutdown ∉ events)
    (hfail : ∀ event ∈ events, ¬event.IsFailure) : (r.run events).Watches := by
  induction events generalizing r with
  | nil => exact h
  | cons event events ih =>
    rw [List.mem_cons, not_or] at hfirst
    rw [List.forall_mem_cons] at hfail
    exact ih (h.step (Ne.symm hfirst.1) hfail.1) hfirst.2 hfail.2

/-! ### After the request -/

/-- A run that was asked to shut down and has not ended. Once the calls have had all their time,
the server is told to drop them. -/
def Winding (r : AgentRun) : Prop :=
  r.phase = .draining ∨ r.phase = .aborting ∧ r.transport.abort = true

/-- What a run that was asked to shut down ends with, and after how many turns of its server, unless
this waits for calls. -/
inductive EndsWith (r : AgentRun) : Except TransportError Unit → Nat → Prop
  | unbound (hphase : r.Winding) (hbound : Transport.bind r.network r.endpoint = .ok ())
      (hserver : r.server = none) (hstate : r.transport.state = .stopped) :
      EndsWith r (.error (.invalidState .stopped)) 2
  | starting (hphase : r.Winding) (hserver : r.server = some .starting)
      (hstate : r.transport.state = .stopped) : EndsWith r (.error (.invalidState .stopped)) 1
  | serving (hphase : r.Winding) (hserver : r.server = some .serving)
      (hshutdown : r.transport.shutdown = true) : EndsWith r (.ok ()) 3
  | closing {result : Except TransportError Unit} (hphase : r.Winding)
      (hserver : r.server = some (.closing result)) : EndsWith r result 2
  | leaving {result : Except TransportError Unit} (hphase : r.Winding)
      (hserver : r.server = some (.leaving result)) : EndsWith r result 1
  | finished {result : Except TransportError Unit}
      (hphase : r.phase = .finished (result.mapError .transport))
      (hstate : r.transport.state = .stopped) : EndsWith r result 0

theorem Winding.ne_finished (h : r.Winding) (result : Except AgentError Unit) :
    r.phase ≠ .finished result := by
  rcases h with h | ⟨h, -⟩ <;> simp [h]

/-- The request settles how the run ends. -/
theorem Watches.endsWith (h : r.Watches) :
    ∃ n, (r.step .shutdown).EndsWith
      (if r.transport.state = .created then .error (.invalidState .stopped) else .ok ()) n := by
  obtain ⟨hphase, hbound, -, hserver⟩ := h
  simp only [AgentRun.step, hphase]
  rcases hserver with ⟨hstate, hserver | hserver⟩ | ⟨hstate, hserver⟩
  · rw [if_pos hstate]
    exact ⟨2, .unbound (.inl rfl) hbound hserver (Transport.state_gracefulStop_of_created hstate)⟩
  · rw [if_pos hstate]
    exact ⟨1, .starting (.inl rfl) hserver (Transport.state_gracefulStop_of_created hstate)⟩
  · rw [if_neg (by simp [hstate])]
    exact ⟨3, .serving (.inl rfl) hserver rfl⟩

/-- A turn of the server brings the end closer, unless the server waits for calls. -/
theorem EndsWith.serverTurn (h : r.EndsWith result n) (hfail : ¬(RunEvent.server e).IsFailure) :
    ∃ m, (r.step (.server e)).EndsWith result m ∧ (r.phase ≠ .draining → m ≤ n - 1) := by
  cases h with
  | unbound hphase hbound hserver hstate =>
    rw [step_server hphase.ne_finished, serverTurn_of_none hserver hbound]
    exact ⟨1, .starting hphase rfl hstate, fun _ => Nat.le_refl _⟩
  | starting hphase hserver hstate =>
    have hstep : ServePhase.starting.step r.transport e =
        (.returned (.error (.invalidState .stopped)), r.transport) := by
      simp [ServePhase.step, Transport.tryStart, hstate]
    rw [step_server hphase.ne_finished, serverTurn_of_returned hserver hstep]
    exact ⟨0, .finished rfl hstate, fun _ => Nat.le_refl _⟩
  | serving hphase hserver hshutdown =>
    rw [step_server hphase.ne_finished]
    by_cases hends : r.transport.abort = true ∨ e = .idle
    · have hstep : ServePhase.serving.step r.transport e = (.closing (.ok ()), r.transport) := by
        rcases hends with habort | rfl
        · simp [ServePhase.step, habort]
        · simp [ServePhase.step, hshutdown]
      rw [serverTurn_of_some hserver hstep (by simp)]
      exact ⟨2, .closing hphase rfl, fun _ => Nat.le_refl _⟩
    · rw [not_or] at hends
      have hstep : ServePhase.serving.step r.transport e = (.serving, r.transport) := by
        cases e with
        | fails reason => exact absurd trivial hfail
        | idle => exact absurd rfl hends.2
        | busy => simp [ServePhase.step, hends.1]
      rw [serverTurn_of_some hserver hstep (by simp)]
      -- A server with calls goes on only as long as these have time.
      refine ⟨3, .serving hphase rfl hshutdown, fun hdrained => absurd ?_ hends.1⟩
      rcases hphase with hphase | ⟨-, habort⟩
      · exact absurd hphase hdrained
      · exact habort
  | closing hphase hserver =>
    rw [step_server hphase.ne_finished, serverTurn_of_some hserver rfl (by simp)]
    exact ⟨1, .leaving hphase rfl, fun _ => Nat.le_refl _⟩
  | leaving hphase hserver =>
    rw [step_server hphase.ne_finished, serverTurn_of_returned hserver rfl]
    exact ⟨0, .finished rfl rfl, fun _ => Nat.le_refl _⟩
  | finished hphase hstate =>
    rw [step_of_finished hphase]
    exact ⟨0, .finished hphase hstate, fun _ => Nat.le_refl _⟩

/-- What a run ends with does not depend on whether the calls have had all their time. -/
theorem EndsWith.timeUp (h : r.EndsWith result n) :
    (r.step .timeUp).EndsWith result n ∧ (r.step .timeUp).phase ≠ .draining := by
  by_cases hdraining : r.phase = .draining
  · simp only [AgentRun.step, hdraining]
    refine ⟨?_, by simp⟩
    cases h with
    | unbound hphase hbound hserver hstate =>
      exact .unbound (.inr ⟨rfl, rfl⟩) hbound hserver (Transport.state_stop_of_stopped hstate)
    | starting hphase hserver hstate =>
      exact .starting (.inr ⟨rfl, rfl⟩) hserver (Transport.state_stop_of_stopped hstate)
    | serving hphase hserver hshutdown => exact .serving (.inr ⟨rfl, rfl⟩) hserver rfl
    | closing hphase hserver => exact .closing (.inr ⟨rfl, rfl⟩) hserver
    | leaving hphase hserver => exact .leaving (.inr ⟨rfl, rfl⟩) hserver
    | finished hphase hstate => simp [hphase] at hdraining
  · have hstep : r.step .timeUp = r := by
      cases hphase : r.phase with
      | draining => exact absurd hphase hdraining
      | _ => simp only [AgentRun.step, hphase]
    rw [hstep]
    exact ⟨h, hdraining⟩

theorem EndsWith.phase_ne_watching (h : r.EndsWith result n) : r.phase ≠ .watching := by
  cases h with
  | finished hphase hstate => simp [hphase]
  | unbound hphase | starting hphase | serving hphase | closing hphase | leaving hphase =>
    rcases hphase with hphase | ⟨hphase, -⟩ <;> simp [hphase]

theorem EndsWith.shutdown (h : r.EndsWith result n) : r.step .shutdown = r := by
  cases hphase : r.phase with
  | watching => exact absurd hphase h.phase_ne_watching
  | _ => simp only [AgentRun.step, hphase]

theorem EndsWith.step (h : r.EndsWith result n) (hfail : ¬event.IsFailure) :
    ∃ m, (r.step event).EndsWith result m ∧
      (r.phase ≠ .draining → m ≤ n - [event].countP (·.isServerTurn)) := by
  cases event with
  | server e => exact h.serverTurn hfail
  | shutdown => exact ⟨n, by rwa [h.shutdown], fun _ => Nat.le_refl _⟩
  | timeUp => exact ⟨n, h.timeUp.1, fun _ => Nat.le_refl _⟩

theorem EndsWith.run (h : r.EndsWith result n) {events : List RunEvent}
    (hfail : ∀ event ∈ events, ¬event.IsFailure) :
    ∃ m, (r.run events).EndsWith result m ∧
      (r.phase ≠ .draining → m ≤ n - events.countP (·.isServerTurn)) := by
  induction events generalizing r n with
  | nil => exact ⟨n, h, fun _ => Nat.le_refl _⟩
  | cons event events ih =>
    rw [List.forall_mem_cons] at hfail
    obtain ⟨m, hm, hle⟩ := h.step hfail.1
    obtain ⟨m', hm', hle'⟩ := ih hm hfail.2
    refine ⟨m', hm', fun hphase => ?_⟩
    have hnext := hle' (phase_step_ne_draining h.phase_ne_watching hphase event)
    have hfirst := hle hphase
    rw [← List.singleton_append, List.countP_append]
    omega

theorem EndsWith.le_three (h : r.EndsWith result n) : n ≤ 3 := by
  cases h <;> decide

theorem EndsWith.of_result? (h : r.EndsWith result n) {ended : Except AgentError Unit}
    (hended : r.result? = some ended) :
    ended = result.mapError .transport ∧ r.transport.state = .stopped := by
  cases h with
  | finished hphase hstate =>
    simp only [result?, hphase, Option.some.injEq] at hended
    exact ⟨hended.symm, hstate⟩
  | unbound hphase | starting hphase | serving hphase | closing hphase | leaving hphase =>
    rcases hphase with hphase | ⟨hphase, -⟩ <;> simp [result?, hphase] at hended

theorem EndsWith.result?_isSome (h : r.EndsWith result 0) : r.result?.isSome = true := by
  cases h with
  | finished hphase hstate => simp [result?, hphase]

/-- A run whose calls have had all their time ends within three turns of its server. -/
theorem EndsWith.isSome_of_timeUp (h : r.EndsWith result n) {events : List RunEvent}
    (hfail : ∀ event ∈ events, ¬event.IsFailure)
    (hturns : 3 ≤ events.countP (·.isServerTurn)) :
    ((r.step .timeUp).run events).result?.isSome = true := by
  obtain ⟨hup, hphase⟩ := h.timeUp
  obtain ⟨m, hm, hle⟩ := hup.run hfail
  have hzero : m = 0 := by
    have := hup.le_three
    have := hle hphase
    omega
  subst hzero
  exact hm.result?_isSome

end AgentRun

/-! ### The end of a run -/

theorem Agent.build_eq_ok {c : Config} {s : Surroundings} {a : Agent}
    (h : (Agent.build c s).result = .ok a) : ∃ settings, a = Agent.ofSettings c settings s.now := by
  unfold Agent.build at h
  split at h
  · cases h
  · dsimp only at h
    split at h
    · cases h
    · next settings hsettings =>
      cases h
      exact ⟨settings, rfl⟩

/-- A run begins by waiting for its server, if the address can be listened on. -/
theorem Agent.watches_start {c : Config} {s : Surroundings} {a : Agent} {network : Network}
    {r : AgentRun} (hbuild : (Agent.build c s).result = .ok a)
    (hstart : a.start network = .ok r) (hbound : network.refusal? r.endpoint = none) :
    r.Watches := by
  obtain ⟨settings, rfl⟩ := Agent.build_eq_ok hbuild
  unfold Agent.start at hstart
  split at hstart
  · cases hstart
  · next endpoint hendpoint =>
    cases hstart
    refine ⟨rfl, ?_, ⟨rfl, rfl⟩, .inl ⟨rfl, .inl rfl⟩⟩
    simp only at hbound
    simp only [Transport.bind, hbound]

namespace AgentRun

/-- **How a run ends after a request to shut down**, on an address that can be listened on and with
a server that does not fail. Whatever has happened before the request and happens after it, the run
ends with a transport that is stopped. It ends well if the request finds the transport out of its
created state; otherwise, the server not having started, it fails because it cannot start any more.
And it does end, within three turns of its server from when the calls have had all their time. -/
theorem run_of_shutdown {c : Config} {s : Surroundings} {a : Agent} {network : Network}
    {r : AgentRun} (hbuild : (Agent.build c s).result = .ok a) (hstart : a.start network = .ok r)
    (hbound : network.refusal? r.endpoint = none) {before after : List RunEvent}
    (hfirst : .shutdown ∉ before) (hfail : ∀ event ∈ before ++ after, ¬event.IsFailure) :
    let found := (r.run before).transport.state
    let last := r.run (before ++ .shutdown :: after)
    (∀ ended, last.result? = some ended →
      last.transport.state = .stopped ∧ (ended = .ok () ↔ found ≠ .created) ∧
        (found = .created → ended = .error (.transport (.invalidState .stopped)))) ∧
    (∀ drained aborted, after = drained ++ .timeUp :: aborted →
      3 ≤ aborted.countP (·.isServerTurn) → last.result?.isSome = true) := by
  intro found last
  rw [List.forall_mem_append] at hfail
  have hwatches := (Agent.watches_start hbuild hstart hbound).run hfirst hfail.1
  obtain ⟨n, hends⟩ := hwatches.endsWith
  have hlast : last = ((r.run before).step .shutdown).run after := by
    simp only [last, run, List.foldl_append, List.foldl_cons]
  constructor
  · intro ended hended
    obtain ⟨m, hm, -⟩ := hends.run hfail.2
    rw [← hlast] at hm
    obtain ⟨hresult, hstopped⟩ := hm.of_result? hended
    refine ⟨hstopped, ?_⟩
    by_cases hfound : found = .created
    · rw [if_pos hfound] at hresult
      subst hresult
      exact ⟨iff_of_false nofun (absurd hfound), fun _ => rfl⟩
    · rw [if_neg hfound] at hresult
      subst hresult
      exact ⟨iff_of_true rfl hfound, fun h => absurd h hfound⟩
  · rintro drained aborted rfl hturns
    rw [List.forall_mem_append, List.forall_mem_cons] at hfail
    obtain ⟨m, hm, -⟩ := hends.run hfail.2.1
    have := hm.isSome_of_timeUp hfail.2.2.2 hturns
    rw [hlast]
    simpa only [run, List.foldl_append, List.foldl_cons] using this

/-- A configuration for local tests. -/
def localConfig : Config where
  agentId := "test"
  listenAddress := "127.0.0.1:0"
  tls := { enabled := false }

/-- A host without files. -/
def emptyHost : Surroundings where
  now := ⟨0⟩
  entropy := { block := fun _ => [] }
  files := {}

/-- A network on which every address can be listened on. -/
def openNetwork : Network where
  refusal? _ := none
  reachable _ := true

theorem localConfig_start :
    (Agent.build localConfig emptyHost).result = .ok (.ofSettings localConfig {} ⟨0⟩) ∧
      ∃ endpoint, (Agent.ofSettings localConfig {} ⟨0⟩).start openNetwork =
        .ok { network := openNetwork, endpoint, transport := {}, log := [.agentStarts] } := by
  have hendpoint : (Endpoint.parse? localConfig.listenAddress).isSome = true := by decide +kernel
  obtain ⟨endpoint, hendpoint⟩ := Option.isSome_iff_exists.mp hendpoint
  refine ⟨rfl, endpoint, ?_⟩
  simp only [Agent.start, Config.listenEndpoint, Config.endpoint?, Agent.ofSettings, hendpoint]

/-- A request that comes while the server is serving. -/
theorem run_of_shutdown_serving :
    ∃ a r, (Agent.build localConfig emptyHost).result = .ok a ∧ a.start openNetwork = .ok r ∧
      (r.run [.server .busy, .server .busy, .shutdown, .server .idle, .timeUp, .server .busy,
        .server .busy, .server .busy]).result? = some (.ok ()) := by
  obtain ⟨hbuild, endpoint, hstart⟩ := localConfig_start
  refine ⟨_, _, hbuild, hstart, ?_⟩
  obtain ⟨hresult, hends⟩ := @run_of_shutdown localConfig emptyHost _ openNetwork _ hbuild hstart
    rfl [.server .busy, .server .busy]
    [.server .idle, .timeUp, .server .busy, .server .busy, .server .busy]
    (by simp) (by simp [RunEvent.IsFailure])
  obtain ⟨ended, hended⟩ := Option.isSome_iff_exists.mp
    (hends [.server .idle] [.server .busy, .server .busy, .server .busy] rfl (by decide))
  obtain ⟨-, hclean, -⟩ := hresult ended hended
  rw [hclean.mpr (by simp [run, step, serverTurn, openNetwork, Transport.bind, ServePhase.step,
    Transport.tryStart])] at hended
  exact hended

/-- A request that comes before the run has looked at its server. -/
theorem early_shutdown_fails :
    ∃ a r, (Agent.build localConfig emptyHost).result = .ok a ∧ a.start openNetwork = .ok r ∧
      openNetwork.refusal? r.endpoint = none ∧
      (r.run [.shutdown, .server .idle, .server .idle]).result? =
        some (.error (.transport (.invalidState .stopped))) := by
  obtain ⟨hbuild, endpoint, hstart⟩ := localConfig_start
  exact ⟨_, _, hbuild, hstart, rfl, rfl⟩

end AgentRun

end GatewayAgent
