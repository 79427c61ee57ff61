import GatewayAgent.Proofs.ControlPlane.Failure

/-!
# How the outcome of a command is reported

A command that runs out of time is to be reported as a status, and every other outcome in the answer
(`Reply.Reports`). Two of the three calls that give commands keep to this. New routes do not: they
are written when the user is disconnected for them, and a command that runs out of time is then
passed over like any other that failed. `reports_iff_not_late_reload` says that this is the only
exception, wherever the deadline comes from.
-/

namespace GatewayAgent

/-! ### Reports -/

/-- The command ran out of time, by the limit of the executor or by the deadline of the caller. -/
def CommandResult.Late (result : CommandResult) : Prop :=
  ∃ limit, result = .error (.deadlineExceeded limit)

/-- An answer tells what a command came to: its output or its error, or for new routes whether the
user was reconnected. -/
def Answer.Tells (result : CommandResult) : Answer → Prop
  | .command _ success stdout stderr exitCode message =>
    match result with
    | .ok o => success = o.success ∧ stdout = o.stdout ∧ stderr = o.stderr ∧
        exitCode = o.exitCode ∧ message = o.errorMessage
    | .error e => success = false ∧ stdout = "" ∧ stderr = "" ∧ exitCode = -1 ∧ message = e.message
  | .disconnected success _ message =>
    match result with
    | .ok o => success = o.success ∧ message = if o.success then "" else o.failureMessage
    | .error e => success = false ∧ message = e.message
  | .routes success _ reconnected message =>
    success = true ∧ reconnected = CommandResult.succeeded result ∧ message = ""
  | .health .. | .connect _ | .disconnect .. | .sessions .. => False

/-- A reply reports a command that ran out of time by the status for it, and any other by an answer
that tells what it came to. -/
def Reply.Reports (result : CommandResult) : Reply → Prop
  | .error status => CommandResult.Late result ∧ status.code = .deadlineExceeded
  | .ok answer => ¬CommandResult.Late result ∧ answer.Tells result

/-- The call gives a user new routes. -/
def Request.GivesRoutes : Request → Prop
  | .updateUserRoutes .. => True
  | _ => False

section

variable {s : AgentState} {result : CommandResult} {username path : String}

theorem late_or_status?_eq_none (e : CommandError) :
    (∃ limit, e = .deadlineExceeded limit) ∨
      (e.status? = none ∧ ¬CommandResult.Late (.error e)) := by
  cases e with
  | deadlineExceeded limit => exact .inl ⟨limit, rfl⟩
  | notAllowed command => exact .inr ⟨rfl, by rintro ⟨_, h⟩; cases h⟩
  | invalidArguments reason => exact .inr ⟨rfl, by rintro ⟨_, h⟩; cases h⟩
  | spawn program cause => exact .inr ⟨rfl, by rintro ⟨_, h⟩; cases h⟩

theorem not_late_ok (o : CommandOutput) : ¬CommandResult.Late (.ok o) := by
  rintro ⟨limit, h⟩
  cases h

theorem reports_commandReply (requestId : String) (result : CommandResult) :
    Reply.Reports result (commandReply requestId result) := by
  cases result with
  | ok o => exact ⟨not_late_ok o, rfl, rfl, rfl, rfl, rfl⟩
  | error e =>
    rcases late_or_status?_eq_none e with ⟨limit, rfl⟩ | ⟨hstatus, hlate⟩
    · exact ⟨⟨limit, rfl⟩, rfl⟩
    · simp only [commandReply, hstatus]
      exact ⟨hlate, rfl, rfl, rfl, rfl, rfl⟩

theorem reports_afterDisconnect (username : String) (result : CommandResult) (s : AgentState) :
    Reply.Reports result (afterDisconnect username result s).2 := by
  cases result with
  | ok o =>
    cases ho : o.success with
    | true =>
      simp only [afterDisconnect, ho, if_true]
      exact ⟨not_late_ok o, ho.symm, by rw [if_pos ho]⟩
    | false =>
      simp only [afterDisconnect, ho, Bool.false_eq_true, if_false]
      exact ⟨not_late_ok o, ho.symm, by rw [if_neg (by simp [ho])]⟩
  | error e =>
    rcases late_or_status?_eq_none e with ⟨limit, rfl⟩ | ⟨hstatus, hlate⟩
    · exact ⟨⟨limit, rfl⟩, rfl⟩
    · simp only [afterDisconnect, hstatus]
      exact ⟨hlate, rfl, rfl⟩

/-- Routes that are written are answered as such, whatever became of the command. -/
theorem afterReload_snd (username path : String) (result : CommandResult) (s : AgentState) :
    (afterReload username path result s).2 =
      .ok (.routes true path (CommandResult.succeeded result) "") := by
  cases result with
  | ok o => cases ho : o.success <;> simp [afterReload, CommandResult.succeeded, ho]
  | error e => rfl

theorem reports_afterReload_iff :
    Reply.Reports result (afterReload username path result s).2 ↔ ¬CommandResult.Late result := by
  rw [afterReload_snd]
  exact and_iff_left ⟨rfl, rfl, rfl⟩

end

/-- **Deadlines are reported as such.** A call whose command has come to an end is answered, and the
reply reports a deadline as a status and everything else in the answer, unless the call gives a user
new routes and the command ran out of time. Such a call is answered like one whose user could not be
disconnected. -/
theorem reports_iff_not_late_reload (p : ControlPlane) (executor : Executor) (s : AgentState)
    (now : Instant) (deadline : Option Duration) (r : Request) {line : CommandLine}
    {t : Duration} {result : CommandResult}
    (hline : (p.serve executor s now deadline r).commands = [line])
    (hrun : line.run executor deadline = .after t result) :
    ∃ reply, (p.serve executor s now deadline r).reply = .after t reply ∧
      (Reply.Reports result reply ↔ ¬(r.GivesRoutes ∧ CommandResult.Late result)) ∧
      (r.GivesRoutes → CommandResult.Late result →
        ∃ path, reply = .ok (.routes true path false "")) := by
  obtain ⟨state, resume, hturn, hreply⟩ := reply_of_run hline hrun
  refine ⟨_, hreply, ?_⟩
  cases resumes_of_waiting hturn with
  | command requestId command args =>
    exact ⟨iff_of_true (reports_commandReply requestId result) fun h => h.1, fun h => h.elim⟩
  | disconnect username =>
    exact ⟨iff_of_true (reports_afterDisconnect username result state) fun h => h.1,
      fun h => h.elim⟩
  | reload username path routes dnsServers params =>
    refine ⟨?_, fun _ hlate => ⟨path, ?_⟩⟩
    · rw [reports_afterReload_iff]
      exact not_congr (and_iff_right trivial).symm
    · obtain ⟨limit, rfl⟩ := hlate
      rfl

/-- An agent that keeps files for its users, with a session of Alice. -/
def connectedAlice : AgentState where
  registry := { sessions := .ofList [("s1", { id := "s1", username := "alice" })] }
  files := { nodes := .ofList [(["users"], .directory)] }

/-- Alice's new routes are answered with success although the command to disconnect her never ends
and her caller's deadline passes. -/
theorem late_reload_answered :
    (disconnectLine "alice").run (fun _ _ => .never) (some (.ofMillis 200)) =
        .after (.ofMillis 150) (.error (.deadlineExceeded (.ofMillis 200))) ∧
      (ControlPlane.serve { userConfigDir := some "users" } (fun _ _ => .never) connectedAlice ⟨0⟩
          (some (.ofMillis 200))
          (.updateUserRoutes "alice" ["10.0.0.0/8"] [] true .empty)).commands =
        [disconnectLine "alice"] ∧
      ∃ path, (ControlPlane.serve { userConfigDir := some "users" } (fun _ _ => .never)
          connectedAlice ⟨0⟩ (some (.ofMillis 200))
          (.updateUserRoutes "alice" ["10.0.0.0/8"] [] true .empty)).reply =
        .after (.ofMillis 150) (.ok (.routes true path false "")) := by
  have hrun : (disconnectLine "alice").run (fun _ _ => .never) (some (.ofMillis 200)) =
      .after (.ofMillis 150) (.error (.deadlineExceeded (.ofMillis 200))) := rfl
  have hline : (ControlPlane.serve { userConfigDir := some "users" } (fun _ _ => .never)
      connectedAlice ⟨0⟩ (some (.ofMillis 200))
      (.updateUserRoutes "alice" ["10.0.0.0/8"] [] true .empty)).commands =
    [disconnectLine "alice"] := by decide +kernel
  obtain ⟨state, resume, hturn, hreply⟩ := reply_of_run hline hrun
  cases resumes_of_waiting hturn with
  | reload username path routes dnsServers params => exact ⟨hrun, hline, path, hreply⟩

/-- The same command is reported as late to a caller who only has Alice disconnected. -/
theorem late_disconnect_reported :
    ((disconnectLine "alice").run (fun _ _ => .never) (some (.ofMillis 200)) =
        .after (.ofMillis 150) (.error (.deadlineExceeded (.ofMillis 200))) ∧
      (ControlPlane.serve {} (fun _ _ => .never) connectedAlice ⟨0⟩ (some (.ofMillis 200))
          (.disconnectUser "alice")).commands = [disconnectLine "alice"]) ∧
      ∃ reply, (ControlPlane.serve {} (fun _ _ => .never) connectedAlice ⟨0⟩ (some (.ofMillis 200))
          (.disconnectUser "alice")).reply = .after (.ofMillis 150) reply ∧
        Reply.Reports (.error (.deadlineExceeded (.ofMillis 200))) reply := by
  have hrun : (disconnectLine "alice").run (fun _ _ => .never) (some (.ofMillis 200)) =
      .after (.ofMillis 150) (.error (.deadlineExceeded (.ofMillis 200))) := rfl
  have hline : (ControlPlane.serve {} (fun _ _ => .never) connectedAlice ⟨0⟩
      (some (.ofMillis 200)) (.disconnectUser "alice")).commands = [disconnectLine "alice"] := rfl
  obtain ⟨reply, hreply, hreports, -⟩ :=
    reports_iff_not_late_reload _ _ _ _ _ _ hline hrun
  exact ⟨⟨hrun, hline⟩, reply, hreply, hreports.mpr fun h => h.1⟩

end GatewayAgent
