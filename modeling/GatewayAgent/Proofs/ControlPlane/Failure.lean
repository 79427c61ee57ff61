import GatewayAgent.Proofs.ControlPlane.Effect

/-!
# Calls that fail

A call can fail in many ways: the request is malformed, the command is refused, ends badly, takes
too long or panics. Whatever it was, a reply that reports it has left the sessions on record
(`sessions_kept_by_failure`); a user who was disconnected has lost exactly their own.

A call with a command goes on in one of three ways when the command has ended (`Resumes`), and what
holds of every reply is shown by these three cases; `served_cases` says how a reply comes about.
-/

namespace GatewayAgent

/-! ### How calls go on -/

/-- The gateway reports that a connection has begun or ended. -/
def Request.IsReport : Request → Prop
  | .notifyConnect .. | .notifyDisconnect .. => True
  | _ => False

/-- How a call goes on when its command has ended. -/
inductive Resumes : Request → (CommandResult → AgentState → AgentState × Reply) → Prop
  | command (requestId command : String) (args : List String) :
      Resumes (.executeCommand requestId command args)
        fun result s => (s, commandReply requestId result)
  | disconnect (username : String) :
      Resumes (.disconnectUser username) (afterDisconnect username)
  | reload (username path : String) (routes dnsServers : List String)
      (params : Dictionary String String) :
      Resumes (.updateUserRoutes username routes dnsServers true params)
        (afterReload username path)

section

variable {p : ControlPlane} {executor : Executor} {s state : AgentState} {now : Instant}
  {deadline : Option Duration} {r : Request} {line : CommandLine} {t : Duration} {reply : Reply}
  {resume : CommandResult → AgentState → AgentState × Reply}

/-- Apart from a report, a call does nothing to the registry before its command has ended. -/
theorem registry_begin (h : ¬r.IsReport) : (p.begin s now r).state.registry = s.registry := by
  cases r with
  | disconnectUser username => exact (forces_disconnectUser s username).registry_state
  | updateUserRoutes username routes dnsServers reload params =>
    exact (forces_updateUserRoutes p s now ⟨username, routes, dnsServers, params⟩
      reload).registry_state
  | notifyConnect id username clientIp vpnIp deviceId metadata => exact absurd trivial h
  | notifyDisconnect id bytesIn bytesOut => exact absurd trivial h
  | executeCommand requestId command args => rfl
  | healthCheck tier => rfl
  | getActiveSessions filter stats => rfl
  | updateConfig => rfl
  | streamLogs => rfl
  | agentStream => rfl

theorem resumes_of_waiting (h : p.begin s now r = .waiting state line resume) :
    Resumes r resume := by
  cases r with
  | executeCommand requestId command args =>
    injection h with _ _ hresume
    exact hresume ▸ .command requestId command args
  | disconnectUser username =>
    change disconnectUser s username = _ at h
    rw [disconnectUser] at h
    split_ifs at h
    injection h with _ _ hresume
    exact hresume ▸ .disconnect username
  | updateUserRoutes username routes dnsServers reload params =>
    obtain ⟨rfl, dir, -, -, rfl⟩ := updateUserRoutes_eq_waiting h
    exact .reload username _ routes dnsServers params
  | healthCheck tier => cases h
  | notifyConnect id username clientIp vpnIp deviceId metadata => cases h
  | notifyDisconnect id bytesIn bytesOut => cases h
  | getActiveSessions filter stats => cases h
  | updateConfig => cases h
  | streamLogs => cases h
  | agentStream => cases h

/-- While a call waits for its command it has not touched the registry. -/
theorem registry_eq_of_waiting (h : p.begin s now r = .waiting state line resume) :
    state.registry = s.registry := by
  have hnot : ¬r.IsReport := by cases resumes_of_waiting h <;> exact id
  have hregistry : (p.begin s now r).state.registry = s.registry := registry_begin hnot
  rwa [h] at hregistry

/-- How the reply to a call comes about: without a command, from what the command came to, or from a
panic of the executor. -/
theorem served_cases (h : (p.serve executor s now deadline r).reply = .after t reply) :
    p.begin s now r = .replied (p.serve executor s now deadline r).state reply ∨
      ∃ state line resume, p.begin s now r = .waiting state line resume ∧
        ((∃ result, line.run executor deadline = .after t result ∧
            resume result state = ((p.serve executor s now deadline r).state, reply)) ∨
          ((∃ payload, line.run executor deadline = .panic payload) ∧
            (p.serve executor s now deadline r).state = state ∧
            reply = .error .internalError)) := by
  rw [ControlPlane.serve, ControlPlane.handle] at h ⊢
  cases hturn : p.begin s now r with
  | replied state reply' =>
    rw [hturn] at h
    cases h
    exact .inl rfl
  | waiting state line resume =>
    rw [hturn] at h
    refine .inr ⟨state, line, resume, rfl, ?_⟩
    change (Turn.resumeWith state resume (line.run executor deadline)).2.contained = _ at h
    change (∃ result, _ ∧ _ = ((Turn.resumeWith state resume (line.run executor deadline)).1, _)) ∨
      _ ∧ (Turn.resumeWith state resume (line.run executor deadline)).1 = _ ∧ _
    cases hrun : line.run executor deadline with
    | after time result =>
      rw [hrun] at h
      cases h
      exact .inl ⟨result, rfl, rfl⟩
    | never =>
      rw [hrun] at h
      cases h
    | panic payload =>
      rw [hrun] at h
      cases h
      exact .inr ⟨⟨payload, rfl⟩, rfl, rfl⟩

/-- A call whose command has come to an end is answered with what the call makes of that. -/
theorem reply_of_run {result : CommandResult}
    (hline : (p.serve executor s now deadline r).commands = [line])
    (hrun : line.run executor deadline = .after t result) :
    ∃ state resume, p.begin s now r = .waiting state line resume ∧
      (p.serve executor s now deadline r).reply = .after t (resume result state).2 := by
  rw [ControlPlane.serve, ControlPlane.handle] at hline ⊢
  cases hturn : p.begin s now r with
  | replied state reply =>
    rw [hturn] at hline
    cases hline
  | waiting state line' resume =>
    rw [hturn] at hline
    obtain rfl : line' = line := List.singleton_inj.mp hline
    refine ⟨state, resume, rfl, ?_⟩
    change (Turn.resumeWith state resume (line'.run executor deadline)).2.contained = _
    rw [hrun]
    rfl

/-! ### Replies that report a failure -/

/-- An answer that says that what was asked for was not done. New routes that are written, but that
the user has not been reconnected for, count as such. -/
def Answer.Failed : Answer → Prop
  | .command _ success _ _ _ _ => success = false
  | .disconnected success _ _ => success = false
  | .routes success _ reconnected _ => success = false ∨ reconnected = false
  | .health .. | .connect _ | .disconnect .. | .sessions .. => False

/-- A reply that is a status, or an answer that reports a failure. -/
def Reply.Failed : Reply → Prop
  | .error _ => True
  | .ok answer => answer.Failed

theorem failed_afterDisconnect_iff {username : String} {result : CommandResult} :
    Reply.Failed (afterDisconnect username result s).2 ↔
      CommandResult.succeeded result = false := by
  cases result with
  | ok o =>
    cases ho : o.success <;>
      simp [afterDisconnect, CommandResult.succeeded, ho, Reply.Failed, Answer.Failed]
  | error e =>
    simp only [afterDisconnect, CommandResult.succeeded, iff_true]
    cases e.status? <;> simp [Reply.Failed, Answer.Failed]

theorem failed_afterReload_iff {username path : String} {result : CommandResult} :
    Reply.Failed (afterReload username path result s).2 ↔
      CommandResult.succeeded result = false := by
  cases result with
  | ok o =>
    cases ho : o.success <;>
      simp [afterReload, CommandResult.succeeded, ho, Reply.Failed, Answer.Failed]
  | error e => simp [afterReload, CommandResult.succeeded, Reply.Failed, Answer.Failed]

theorem afterForced_of_not_succeeded {result : CommandResult}
    (h : CommandResult.succeeded result = false) (registry : Registry) (username : String) :
    registry.afterForced username result = registry := by
  rw [Registry.afterForced, h, if_neg Bool.false_ne_true]

/-- A call that goes on to report a failure does nothing to the registry. -/
theorem Resumes.registry_eq_of_failed {result : CommandResult} (h : Resumes r resume)
    (hfail : Reply.Failed (resume result s).2) :
    (resume result s).1.registry = s.registry := by
  cases h with
  | command requestId command args => rfl
  | disconnect username =>
    rw [registry_afterDisconnect,
      afterForced_of_not_succeeded (failed_afterDisconnect_iff.mp hfail)]
  | reload username path routes dnsServers params =>
    rw [registry_afterReload, afterForced_of_not_succeeded (failed_afterReload_iff.mp hfail)]

/-- A call that fails at once does nothing to the registry. -/
theorem registry_eq_of_replied_failed (h : p.begin s now r = .replied state reply)
    (hfail : Reply.Failed reply) : state.registry = s.registry := by
  have hnot : ¬r.IsReport := by
    -- Reports do touch the registry, but are acknowledged whatever comes of them.
    intro hreport
    cases r with
    | notifyConnect id username clientIp vpnIp deviceId metadata =>
      cases h
      exact hfail
    | notifyDisconnect id bytesIn bytesOut =>
      cases h
      exact hfail
    | _ => exact hreport
  have hregistry : (p.begin s now r).state.registry = s.registry := registry_begin hnot
  rwa [h] at hregistry

theorem reportedCount_eq (n : Nat) : reportedCount n = (min n (Nat.pow 2 31 - 1) : Nat) := by
  have hlimit : Nat.pow 2 31 = 2147483648 := rfl
  rw [reportedCount, hlimit]
  omega

/-- What is left when a user is said to be disconnected, and how many sessions that has cost. -/
theorem of_disconnected {username message : String} {n : Int}
    (h : (p.serve executor s now deadline (.disconnectUser username)).reply =
      .after t (.ok (.disconnected true n message))) :
    (p.serve executor s now deadline (.disconnectUser username)).state.registry =
        (s.registry.removeByUsername username).1 ∧
      n = reportedCount (s.registry.removeByUsername username).2 := by
  rcases served_cases h with hturn | ⟨state, line, resume, hturn, ⟨result, -, hres⟩ | ⟨-, -, hres⟩⟩
  · -- Without a command there is only the reply to a request without a username.
    change disconnectUser s username = _ at hturn
    rw [disconnectUser] at hturn
    split_ifs at hturn
    injection hturn with _ hreply
    cases hreply
  · have hregistry := registry_eq_of_waiting hturn
    cases resumes_of_waiting hturn
    cases result with
    | ok o =>
      cases ho : o.success with
      | true =>
        simp only [afterDisconnect, ho, if_true, AgentState.forgetUser, Prod.mk.injEq,
          Except.ok.injEq, Answer.disconnected.injEq, true_and] at hres
        rw [← hregistry]
        exact ⟨by rw [← hres.1], hres.2.1.symm⟩
      | false => simp [afterDisconnect, ho] at hres
    | error e =>
      simp only [afterDisconnect] at hres
      cases he : e.status? <;> simp [he] at hres
  · cases hres

/-- **Failed calls keep the sessions.** If a call is answered with a status, or with an answer that
reports a failure, the registry is as it was before the call. If a user is said to be disconnected,
what has gone from it are the sessions of that user, expired or not, and as many are reported, as
far as the count goes. -/
theorem sessions_kept_by_failure (p : ControlPlane) (executor : Executor) (s : AgentState)
    (now : Instant) (deadline : Option Duration) (r : Request) {t : Duration} {reply : Reply}
    (h : (p.serve executor s now deadline r).reply = .after t reply) :
    (Reply.Failed reply →
        (p.serve executor s now deadline r).state.registry = s.registry) ∧
      ∀ username n message, r = .disconnectUser username →
        reply = .ok (.disconnected true n message) →
        (∀ id e, (p.serve executor s now deadline r).state.registry.sessions.find? id = some e ↔
            s.registry.sessions.find? id = some e ∧ e.username ≠ username) ∧
          n = min (s.registry.sessions.values.countP fun e => e.username = username)
            (Nat.pow 2 31 - 1) := by
  refine ⟨fun hfail => ?_, ?_⟩
  · rcases served_cases h with
      hturn | ⟨state, line, resume, hturn, ⟨result, -, hres⟩ | ⟨-, hstate, -⟩⟩
    · exact registry_eq_of_replied_failed hturn hfail
    · have hregistry := registry_eq_of_waiting hturn
      have hfailed : Reply.Failed (resume result state).2 := by rwa [hres]
      have hkept := (resumes_of_waiting hturn).registry_eq_of_failed hfailed
      rwa [hres, hregistry] at hkept
    · rw [hstate]
      exact registry_eq_of_waiting hturn
  · rintro username n message rfl rfl
    obtain ⟨hregistry, hcount⟩ := of_disconnected h
    refine ⟨fun id e => ?_, ?_⟩
    · rw [hregistry, Registry.find?_removeByUsername, Option.filter_eq_some_iff]
      simp
    · rw [hcount, Registry.removeByUsername_snd, reportedCount_eq]

end

/-- Two sessions of Alice, one of which has expired, and one of Bob. -/
def officeHours : AgentState where
  registry :=
    { sessions := .ofList
        [("s1", { id := "s1", username := "alice" }), ("s2", { id := "s2", username := "bob" }),
          ("s3", { id := "s3", username := "alice", expiresAt := some ⟨0⟩ })] }

/-- A gateway that does not answer costs nobody a session; one that disconnects Alice costs her both
of hers. -/
theorem alice_alone_forgotten :
    ((ControlPlane.serve {} (fun _ _ => .never) officeHours ⟨1⟩ (some (.ofMillis 200))
          (.disconnectUser "alice")).reply =
        .after (.ofMillis 150)
          (.error (.deadlineExceeded "command did not finish within 200ms")) ∧
      (ControlPlane.serve {} (fun _ _ => .never) officeHours ⟨1⟩ (some (.ofMillis 200))
          (.disconnectUser "alice")).state.registry = officeHours.registry) ∧
      (ControlPlane.serve {} (fun _ _ => .after ⟨0⟩ (.ok { success := true })) officeHours ⟨1⟩ none
          (.disconnectUser "alice")).reply = .after ⟨0⟩ (.ok (.disconnected true 2 "")) ∧
      ∀ id e, (ControlPlane.serve {} (fun _ _ => .after ⟨0⟩ (.ok { success := true })) officeHours
          ⟨1⟩ none (.disconnectUser "alice")).state.registry.sessions.find? id = some e ↔
        officeHours.registry.sessions.find? id = some e ∧ e.username ≠ "alice" := by
  refine ⟨⟨rfl, ?_⟩, rfl, ?_⟩
  · have hreply : (ControlPlane.serve {} (fun _ _ => .never) officeHours ⟨1⟩
        (some (.ofMillis 200)) (.disconnectUser "alice")).reply =
      .after (.ofMillis 150)
        (.error (.deadlineExceeded "command did not finish within 200ms")) := rfl
    exact (sessions_kept_by_failure _ _ _ _ _ _ hreply).1 trivial
  · have hreply : (ControlPlane.serve {} (fun _ _ => .after ⟨0⟩ (.ok { success := true }))
        officeHours ⟨1⟩ none (.disconnectUser "alice")).reply =
      .after ⟨0⟩ (.ok (.disconnected true 2 "")) := rfl
    exact ((sessions_kept_by_failure _ _ _ _ _ _ hreply).2 "alice" 2 "" rfl rfl).1

end GatewayAgent
