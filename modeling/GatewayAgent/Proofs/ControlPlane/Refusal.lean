import GatewayAgent.Proofs.Command.Policy
import GatewayAgent.Proofs.ControlPlane.Routes
import GatewayAgent.Proofs.ControlPlane.Waiting
import GatewayAgent.Proofs.UserConfig.Render

/-!
# Reloads that the executor refuses

A username is checked twice on its way through a call for new routes: it must be able to name a
file, and as an argument of the command that has the gateway drop the user it must not be of harm.
The second check is passed by every name that has passed the first, except for one rule: a name may
begin with a dash, an argument may not (`safeArgument_iff_not_dashed`). So an executor that allows
the command refuses the reload of routes that are written for such users, and for no others
(`reload_refused_iff_dashed`); the call then says that the routes are written and that the user was
not made to come back.
-/

namespace GatewayAgent

/-! ### Usernames as arguments -/

section

variable {username : String}

/-- No character of a username is one that a shell would interpret. -/
theorem not_mem_metacharacters_of_usernameChar {c : Char} (h : UsernameChar c = true) :
    c ∉ ";&|><$()\x7b\x7d[]\x60".toList := by
  have hmeta : (";&|><$()\x7b\x7d[]\x60".toList.all fun c => !UsernameChar c) = true := by decide
  intro hc
  have hnot := List.all_eq_true.mp hmeta c hc
  rw [h] at hnot
  exact Bool.false_ne_true hnot

/-- Of the names that can name a file, those that begin with a dash are the ones that may not be
given as an argument. -/
theorem safeArgument_iff_not_dashed (h : SafeUsername username = true) :
    SafeArgument username ↔ username.toList.head? ≠ some '-' := by
  refine ⟨SafeArgument.unflagged, fun hdash => ?_⟩
  obtain ⟨hname, hshort⟩ := isFileName_of_safeUsername h
  have hchars : ∀ c ∈ username.toList, UsernameChar c = true := by
    simp only [SafeUsername, Bool.and_eq_true, List.all_eq_true] at h
    exact h.2
  refine ⟨hshort.trans (by decide), fun c hc => ?_, fun c hc hcontrol => ?_, fun hstep => ?_, hdash⟩
  · exact not_mem_metacharacters_of_usernameChar (hchars c hc)
  · exact absurd hcontrol (by simp [controlFree_of_safeUsername h c hc])
  · -- A step to a parent directory would bring a slash with it.
    exact hname.no_slash (hstep.subset (by decide))

theorem safe_disconnectLine_iff (h : SafeUsername username = true) :
    (∀ a ∈ (disconnectLine username).args, SafeArgument a) ↔
      username.toList.head? ≠ some '-' := by
  have hdisconnect : SafeArgument "disconnect" := argumentFault?_eq_none_iff_safe.mp (by decide)
  have huser : SafeArgument "user" := argumentFault?_eq_none_iff_safe.mp (by decide)
  simp only [disconnectLine, List.forall_mem_cons, hdisconnect, huser, true_and,
    safeArgument_iff_not_dashed h, List.not_mem_nil, false_implies, implies_true, and_true]

theorem permits_disconnectLine_iff {s : ExecutorSettings} (h : SafeUsername username = true)
    (hallowed : "occtl" ∈ s.allowed) :
    s.Permits (disconnectLine username).command (disconnectLine username).args ↔
      username.toList.head? ≠ some '-' := by
  rw [← safe_disconnectLine_iff h]
  have hcommand : "occtl" ≠ "systemctl" := by decide
  exact ⟨fun hpermits => hpermits.safe, fun hsafe => ⟨hallowed, hsafe, fun h => absurd h hcommand⟩⟩

end

/-! ### Commands that are refused -/

/-- The command was refused, and nothing was started for it. -/
def CommandError.IsRefusal : CommandError → Prop
  | .notAllowed _ | .invalidArguments _ => True
  | .deadlineExceeded _ | .spawn _ _ => False

/-- What is known of a command is that it was refused. -/
def Execution.Refused (run : Execution) : Prop := ∃ t e, run = .after t (.error e) ∧ e.IsRefusal

namespace Execution

variable {run : Execution}

theorem not_refused_cutAt (h : ¬Refused run) (limit shown : Duration) :
    ¬Refused (run.cutAt limit (.error (.deadlineExceeded shown))) := by
  rintro ⟨t, e, hrun, hrefusal⟩
  rcases Pending.eq_or_eq_of_cutAt hrun with hkept | hlate
  · exact h ⟨t, e, hkept, hrefusal⟩
  · cases hlate
    exact hrefusal

theorem not_refused_boundBy (h : ¬Refused run) (deadline : Option Duration) :
    ¬Refused (Pending.boundBy run deadline) := by
  cases deadline with
  | none => exact h
  | some deadline => exact not_refused_cutAt h _ deadline

/-- What is known at once is known before any deadline. -/
theorem boundBy_of_immediate (result : CommandResult) (deadline : Option Duration) :
    Pending.boundBy (.after ⟨0⟩ result) deadline = .after ⟨0⟩ result :=
  boundBy_of_le zero_le

end Execution

/-- A command line that was started, or could not be, was not refused. -/
theorem ExecutorSettings.not_refused_outcome (s : ExecutorSettings) (command : String)
    (started : Except SystemError ProcessRun) : ¬Execution.Refused (s.outcome command started) := by
  cases started with
  | error e =>
    rintro ⟨t, e', hrun, hrefusal⟩
    cases hrun
    exact hrefusal
  | ok run =>
    refine Execution.not_refused_cutAt ?_ _ s.timeout
    rintro ⟨t, e, hrun, -⟩
    rw [ProcessRun.execution] at hrun
    cases hruntime : run.runtime <;> simp [hruntime] at hrun

section

variable {s : ExecutorSettings} {line : CommandLine}

theorem CommandLine.run_of_not_permits (h : ¬s.Permits line.command line.args) (host : Launcher)
    (deadline : Option Duration) :
    ∃ e : CommandError, e.IsRefusal ∧
      line.run (s.execute host) deadline = .after ⟨0⟩ (.error e) := by
  cases hline : s.commandLine line.command line.args with
  | ok words => exact absurd (ExecutorSettings.commandLine_eq_ok_iff.mp hline).1 h
  | error e =>
    refine ⟨e, ?_, ?_⟩
    · rcases ExecutorSettings.refusal_of_commandLine hline with ⟨-, rfl⟩ | ⟨-, reason, rfl⟩
      · trivial
      · trivial
    · rw [CommandLine.run, (ExecutorSettings.execute_of_error host hline).1]
      exact Execution.boundBy_of_immediate (.error e) deadline

/-- An executor refuses what its settings do not permit, whatever the host and the deadline. -/
theorem CommandLine.refused_run_iff (host : Launcher) (deadline : Option Duration) :
    Execution.Refused (line.run (s.execute host) deadline) ↔
      ¬s.Permits line.command line.args := by
  constructor
  · intro hrefused hpermits
    have hline := ExecutorSettings.commandLine_eq_ok_iff.mpr ⟨hpermits, rfl⟩
    rw [CommandLine.run, ExecutorSettings.execute_of_ok host hline] at hrefused
    exact Execution.not_refused_boundBy (s.not_refused_outcome _ _) deadline hrefused
  · intro hnot
    obtain ⟨e, hrefusal, hrun⟩ := CommandLine.run_of_not_permits hnot host deadline
    exact ⟨⟨0⟩, e, hrun, hrefusal⟩

end

/-! ### Reloads -/

/-- A reload whose command has no output costs nobody a session, and is answered as one for which
only the routes are written. -/
theorem answered_of_failed_reload {p : ControlPlane} {executor : Executor} {s : AgentState}
    {now : Instant} {deadline : Option Duration} {update : UserUpdate} {reload : Bool}
    {t : Duration} {e : CommandError}
    (hcommands : ((p.updateUserRoutes s now update reload).perform executor deadline).commands =
      [disconnectLine update.username])
    (hrun : (disconnectLine update.username).run executor deadline = .after t (.error e)) :
    ((p.updateUserRoutes s now update reload).perform executor deadline).state.registry =
        s.registry ∧
      ∃ reply, ((p.updateUserRoutes s now update reload).perform executor deadline).reply =
        .after t reply ∧ Reply.Written reply ∧ ¬Reply.Reconnected reply := by
  have hfailed : Execution.succeeded ((disconnectLine update.username).run executor deadline) ≠
      true := by
    rw [hrun]
    exact Bool.false_ne_true
  have hregistry := (forces_updateUserRoutes p s now update reload).registry_perform executor
    deadline
  rw [if_neg fun h => hfailed h.2] at hregistry
  have hturn : RoutesTurn p s now update reload (p.updateUserRoutes s now update reload) :=
    routesTurn_begin p s now update reload
  have hwrites := (hturn.commands_perform_iff.mp hcommands).1
  have htells := hturn.tellsRoutes_perform executor deadline
  obtain ⟨state, resume, hwaiting, -⟩ := hturn.holds_of_commands hcommands
  have hreply : ((p.updateUserRoutes s now update reload).perform executor deadline).reply =
      .after t (resume (.error e) state).2 := by
    rw [hwaiting]
    change (Turn.resumeWith state resume ((disconnectLine update.username).run executor
      deadline)).2 = _
    rw [hrun]
    rfl
  rw [hreply] at htells
  exact ⟨hregistry, _, hreply, htells.1.mpr hwrites, fun h => hfailed (htells.2.mp h).2.2⟩

/-- **Reloads are refused for dashed names only.** For a username that can name a file, the line
that has the gateway drop the user passes the check of arguments exactly if the name does not begin
with a dash. So where the command is allowed, a reload of routes that are written is refused exactly
for a name that does; the call then says that the routes are written and that the user was not made
to come back, and keeps the sessions. -/
theorem reload_refused_iff_dashed (update : UserUpdate)
    (husername : SafeUsername update.username = true) :
    let call := fun reload => Request.updateUserRoutes update.username update.routes
      update.dnsServers reload update.directives
    let line := disconnectLine update.username
    (argumentsFault? line.args = none ↔ update.username.toList.head? ≠ some '-') ∧
    ∀ (settings : ExecutorSettings) (host : Launcher) (p : ControlPlane) (s : AgentState)
      (now : Instant) (deadline : Option Duration) (reload : Bool), "occtl" ∈ settings.allowed →
        let executor := settings.execute host
        let out := p.handle executor s now deadline (call reload)
        out.commands = [line] →
          (Execution.Refused (line.run executor deadline) ↔
            update.username.toList.head? = some '-') ∧
          (update.username.toList.head? = some '-' → out.state.registry = s.registry ∧
            ∃ reply, out.reply = .after ⟨0⟩ reply ∧ Reply.Written reply ∧
              ¬Reply.Reconnected reply) := by
  intro call line
  refine ⟨?_, ?_⟩
  · rw [argumentsFault?_eq_none_iff]
    simp only [argumentFault?_eq_none_iff_safe]
    exact safe_disconnectLine_iff husername
  intro settings host p s now deadline reload hallowed executor out hcommands
  have hpermits := permits_disconnectLine_iff husername hallowed
  refine ⟨?_, fun hdash => ?_⟩
  · rw [CommandLine.refused_run_iff, hpermits, not_not]
  · obtain ⟨e, -, hrun⟩ := CommandLine.run_of_not_permits (fun h => hpermits.mp h hdash) host
      deadline
    exact answered_of_failed_reload hcommands hrun

/-- An executor that may control the gateway and nothing else. -/
def gatewayControl : ExecutorSettings where
  allowed := ["occtl"]
  programs := .empty
  sudoUser := none
  serviceUnit := "ocserv"
  timeout := .ofSecs 5

/-- The reload of Alice's routes is not refused. -/
theorem reload_of_alice_not_refused :
    SafeUsername "alice" = true ∧ "occtl" ∈ gatewayControl.allowed ∧
      (ControlPlane.handle { userConfigDir := some "users" }
          (gatewayControl.execute fun _ => .ok {}) connectedAlice ⟨0⟩ none
          (.updateUserRoutes "alice" ["10.0.0.0/8"] [] true .empty)).commands =
        [disconnectLine "alice"] ∧
      argumentsFault? (disconnectLine "alice").args = none ∧
      ¬Execution.Refused
        ((disconnectLine "alice").run (gatewayControl.execute fun _ => .ok {}) none) := by
  have halice : SafeUsername "alice" = true := by decide
  have hdash : "alice".toList.head? ≠ some '-' := by decide
  have hallowed : "occtl" ∈ gatewayControl.allowed := by decide
  have hcommands : (ControlPlane.handle { userConfigDir := some "users" }
      (gatewayControl.execute fun _ => .ok {}) connectedAlice ⟨0⟩ none
      (.updateUserRoutes "alice" ["10.0.0.0/8"] [] true .empty)).commands =
    [disconnectLine "alice"] := by decide +kernel
  obtain ⟨hfault, hrefused⟩ :=
    reload_refused_iff_dashed ⟨"alice", ["10.0.0.0/8"], [], .empty⟩ halice
  exact ⟨halice, hallowed, hcommands, hfault.mpr hdash,
    mt (hrefused _ _ _ _ _ _ _ hallowed hcommands).1.mp hdash⟩

/-- An agent that keeps files for its users, with a session of a user whose name begins with a
dash. -/
def connectedDashed : AgentState where
  registry := { sessions := .ofList [("s1", { id := "s1", username := "-alice" })] }
  files := { nodes := .ofList [(["users"], .directory)] }

/-- The name can name a file, the file is written and a command is allowed and given, but it is
refused for its argument. -/
theorem dashed_reload_refused :
    SafeUsername "-alice" = true ∧ "occtl" ∈ gatewayControl.allowed ∧
      argumentsFault? (disconnectLine "-alice").args = some (.leadingDash "-alice") ∧
      (ControlPlane.handle { userConfigDir := some "users" }
          (gatewayControl.execute fun _ => .ok {}) connectedDashed ⟨0⟩ none
          (.updateUserRoutes "-alice" ["10.0.0.0/8"] [] true .empty)).commands =
        [disconnectLine "-alice"] ∧
      (ControlPlane.handle { userConfigDir := some "users" }
          (gatewayControl.execute fun _ => .ok {}) connectedDashed ⟨0⟩ none
          (.updateUserRoutes "-alice" ["10.0.0.0/8"] [] true .empty)).state.files.read
        "users/-alice" =
        .ok (Text.encode "# Generated by warden for -alice\nroute = 10.0.0.0/8\n") ∧
      (disconnectLine "-alice").run (gatewayControl.execute fun _ => .ok {}) none =
        .after ⟨0⟩ (.error (.invalidArguments "argument looks like a flag: \"-alice\"")) := by
  refine ⟨by decide, by decide, by decide, by decide +kernel, by decide +kernel, ?_⟩
  have hline : gatewayControl.commandLine "occtl" ["disconnect", "user", "-alice"] =
      .error (.invalidArguments "argument looks like a flag: \"-alice\"") := by decide +kernel
  exact (ExecutorSettings.execute_of_error (fun _ => .ok {}) hline).1

end GatewayAgent
