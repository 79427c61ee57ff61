import GatewayAgent.Proofs.ControlPlane.Accounting
import GatewayAgent.Proofs.ControlPlane.Reporting

/-!
# Answers that agree with themselves

An answer says in several places how a command has ended: there is a flag for success, an exit code,
a text for an error, and a number of sessions. They are put together in different places, from what
a process did, from why there was none, or from what an executor makes of either. This is about
whether they can contradict each other.

A process is reported coherently (`CommandOutput.Coherent`), and time limits add nothing to what
comes of it (`output_of_run`); errors have a wording (`CommandError.message_ne`). Other executors
may report what they like. The calls that drop a user take from them only whether there was success,
and find a reason for a failure whatever they say (`CommandOutput.failureMessage_ne`).

Main statement: `answers_coherent`.
-/

namespace GatewayAgent

/-! ### Texts that say something -/

theorem append_ne_empty {text : String} (h : text ≠ "") (rest : String) : text ++ rest ≠ "" :=
  fun heq => h (String.append_eq_empty_iff.mp heq).1

/-- An error has a wording. -/
theorem CommandError.message_ne (e : CommandError) : e.message ≠ "" := by
  cases e with
  | notAllowed command => exact append_ne_empty (by decide) _
  | invalidArguments reason => exact append_ne_empty (by decide) _
  | deadlineExceeded limit => exact append_ne_empty (by decide) _
  | spawn program cause =>
    have hstart : "failed to start " ≠ "" := by decide
    exact append_ne_empty (append_ne_empty (append_ne_empty hstart program) _) _

/-- There is a reason for every failure, even if the command gives none. -/
theorem CommandOutput.failureMessage_ne (o : CommandOutput) : o.failureMessage ≠ "" := by
  rw [failureMessage]
  split_ifs with hmessage hstderr
  · exact hmessage
  · exact hstderr
  · exact append_ne_empty (by decide) _

/-! ### Commands of an executor -/

/-- The success of a command, its exit code and its error say the same. -/
structure CommandOutput.Coherent (o : CommandOutput) : Prop where
  exitCode : o.success = true ↔ o.exitCode = 0
  errorMessage : o.success = true ↔ o.errorMessage = ""

/-- A process ends well with the exit code 0 and in no other way. -/
theorem ProcessRun.coherent_output (process : ProcessRun) (command : String) :
    (process.output command).Coherent := by
  have hcode : process.ending = .exited 0 ↔ process.ending.code = 0 := by
    cases process.ending <;> simp [Ending.code]
  constructor
  · simp only [output, decide_eq_true_eq, hcode]
  · by_cases hended : process.ending = .exited 0
    · simp [output, hended]
    · have hstatus : " exited with status " ≠ "" := by decide
      have hsummary : command ++ " exited with status " ≠ "" := fun heq =>
        hstatus (String.append_eq_empty_iff.mp heq).2
      simp [output, hended, append_ne_empty hsummary]

section

variable {run : Execution} {t : Duration} {o : CommandOutput}

/-- A time limit adds no output. -/
theorem output_of_cutAt {limit : Duration} {e : CommandError}
    (h : run.cutAt limit (.error e) = .after t (.ok o)) : run = .after t (.ok o) :=
  (Pending.eq_or_eq_of_cutAt h).resolve_right nofun

theorem output_of_boundBy {deadline : Option Duration}
    (h : Pending.boundBy run deadline = .after t (.ok o)) : run = .after t (.ok o) := by
  refine (eq_or_eq_of_boundBy h).resolve_right ?_
  rintro ⟨d, heq⟩
  cases heq

/-- What is put out is what a process did. -/
theorem output_of_run {settings : ExecutorSettings} {host : Launcher} {line : CommandLine}
    {deadline : Option Duration}
    (h : line.run (settings.execute host) deadline = .after t (.ok o)) :
    ∃ process : ProcessRun, o = process.output line.command := by
  have hexecute := output_of_boundBy h
  cases hline : settings.commandLine line.command line.args with
  | error e =>
    rw [(ExecutorSettings.execute_of_error host hline).1] at hexecute
    cases hexecute
  | ok words =>
    rw [ExecutorSettings.execute_of_ok host hline] at hexecute
    cases hstart : host.start words with
    | error e =>
      rw [hstart] at hexecute
      cases hexecute
    | ok process =>
      rw [hstart] at hexecute
      have hended := output_of_cutAt hexecute
      rw [ProcessRun.execution] at hended
      cases hruntime : process.runtime with
      | none => simp [hruntime] at hended
      | some time =>
        rw [hruntime] at hended
        cases hended
        exact ⟨process, rfl⟩

end

/-! ### Answers -/

namespace Answer

/-- The answer to a request for a command says the same of success in all three places. -/
def CoherentCommand (requestId : String) (answer : Answer) : Prop :=
  ∃ success stdout stderr exitCode message,
    answer = .command requestId success stdout stderr exitCode message ∧
      (success = true ↔ exitCode = 0) ∧ (success = true ↔ message = "")

/-- A user is said to be disconnected unless there is an error, and only then are sessions
counted. -/
def CoherentDisconnect (answer : Answer) : Prop :=
  ∃ success n message, answer = .disconnected success n message ∧
    (success = true ↔ message = "") ∧ (success = false → n = 0)

/-- New routes are said to be written unless there is an error. -/
def CoherentRoutes (answer : Answer) : Prop :=
  ∃ success path reconnected message, answer = .routes success path reconnected message ∧
    (success = true ↔ message = "")

end Answer

section

variable {p : ControlPlane} {executor : Executor} {s : AgentState} {now : Instant}
  {deadline : Option Duration} {t : Duration} {answer : Answer}

theorem coherent_commandReply {requestId : String} {result : CommandResult}
    (hresult : ∀ o, result = .ok o → o.Coherent) (h : commandReply requestId result = .ok answer) :
    answer.CoherentCommand requestId := by
  cases result with
  | ok o =>
    obtain ⟨hcode, hmessage⟩ := hresult o rfl
    exact ⟨_, _, _, _, _, (Except.ok.inj h).symm, hcode, hmessage⟩
  | error e =>
    rcases late_or_status?_eq_none e with ⟨limit, rfl⟩ | ⟨hstatus, -⟩
    · cases h
    · simp only [commandReply, hstatus] at h
      refine ⟨_, _, _, _, _, (Except.ok.inj h).symm, ?_, ?_⟩
      · simp [noExitCode]
      · simp [e.message_ne]

theorem coherent_afterDisconnect {username : String} {result : CommandResult}
    (h : (afterDisconnect username result s).2 = .ok answer) :
    answer.CoherentDisconnect := by
  cases result with
  | ok o =>
    cases ho : o.success with
    | true =>
      simp only [afterDisconnect, ho, if_true] at h
      exact ⟨_, _, _, (Except.ok.inj h).symm, iff_of_true rfl rfl, fun hfail => by cases hfail⟩
    | false =>
      simp only [afterDisconnect, ho, Bool.false_eq_true, if_false] at h
      refine ⟨_, _, _, (Except.ok.inj h).symm, ?_, fun _ => rfl⟩
      exact iff_of_false Bool.false_ne_true o.failureMessage_ne
  | error e =>
    rcases late_or_status?_eq_none e with ⟨limit, rfl⟩ | ⟨hstatus, -⟩
    · cases h
    · simp only [afterDisconnect, hstatus] at h
      refine ⟨_, _, _, (Except.ok.inj h).symm, ?_, fun _ => rfl⟩
      exact iff_of_false Bool.false_ne_true e.message_ne

/-- New routes that are answered at once are written or are not, and a reason says why not. -/
theorem coherent_of_replied {update : UserUpdate} {reload : Bool} {state : AgentState}
    (h : p.updateUserRoutes s now update reload = .replied state (.ok answer)) :
    answer.CoherentRoutes := by
  have hfailed : ∀ message : String, message ≠ "" → routesFailed message = .ok answer →
      answer.CoherentRoutes := by
    intro message hmessage heq
    exact ⟨_, _, _, _, (Except.ok.inj heq).symm, iff_of_false Bool.false_ne_true hmessage⟩
  rw [ControlPlane.updateUserRoutes] at h
  split_ifs at h
  · cases h
  · cases h
  cases hdir : p.userConfigDir with
  | none =>
    simp only [hdir, Turn.replied.injEq] at h
    exact hfailed _ (by decide) h.2
  | some dir =>
    simp only [hdir, writeUserFile] at h
    split at h
    · exact hfailed _ (append_ne_empty (by decide) _) (Turn.replied.inj h).2
    · rw [afterWrite] at h
      split_ifs at h
      obtain ⟨-, heq⟩ := Turn.replied.inj h
      exact ⟨_, _, _, _, (Except.ok.inj heq).symm, iff_of_true rfl rfl⟩

theorem coherent_executeCommand {settings : ExecutorSettings} {host : Launcher}
    {requestId command : String} {args : List String}
    (h : (p.serve (settings.execute host) s now deadline
      (.executeCommand requestId command args)).reply = .after t (.ok answer)) :
    answer.CoherentCommand requestId := by
  rcases served_cases h with
    hturn | ⟨state, line, resume, hturn, ⟨result, hrun, hres⟩ | ⟨-, -, hres⟩⟩
  · cases hturn
  · cases hturn
    refine coherent_commandReply (fun o ho => ?_) (congrArg Prod.snd hres)
    subst ho
    obtain ⟨process, rfl⟩ := output_of_run hrun
    exact process.coherent_output command
  · cases hres

theorem coherent_disconnectUser {username : String}
    (h : (p.serve executor s now deadline (.disconnectUser username)).reply =
      .after t (.ok answer)) :
    answer.CoherentDisconnect := by
  rcases served_cases h with hturn | ⟨state, line, resume, hturn, ⟨result, -, hres⟩ | ⟨-, -, hres⟩⟩
  · -- Without a command there is only the reply to a request without a username.
    change disconnectUser s username = _ at hturn
    rw [disconnectUser] at hturn
    split_ifs at hturn
    injection hturn with _ hreply
    cases hreply
  · cases resumes_of_waiting hturn
    exact coherent_afterDisconnect (congrArg Prod.snd hres)
  · cases hres

theorem coherent_updateUserRoutes {username : String} {routes dnsServers : List String}
    {reload : Bool} {params : Dictionary String String}
    (h : (p.serve executor s now deadline
      (.updateUserRoutes username routes dnsServers reload params)).reply =
        .after t (.ok answer)) :
    answer.CoherentRoutes := by
  rcases served_cases h with hturn | ⟨state, line, resume, hturn, ⟨result, -, hres⟩ | ⟨-, -, hres⟩⟩
  · exact coherent_of_replied hturn
  · cases resumes_of_waiting hturn
    have hanswer := congrArg Prod.snd hres
    rw [afterReload_snd] at hanswer
    exact ⟨_, _, _, _, (Except.ok.inj hanswer).symm, iff_of_true rfl rfl⟩
  · cases hres

end

/-- **Answers agree with themselves.** If a command of an executor with an allow-list is answered,
it is said to have succeeded exactly if its exit code is 0, and exactly if there is no error. If a
call to disconnect a user is answered, on any executor, it is said to have succeeded exactly if
there is no error, and no sessions are counted for a failure. New routes are said to be written
exactly if there is no error. -/
theorem answers_coherent (p : ControlPlane) (s : AgentState) (now : Instant)
    (deadline : Option Duration) (t : Duration) (answer : Answer) :
    (∀ (settings : ExecutorSettings) host requestId command args,
      (p.serve (settings.execute host) s now deadline
          (.executeCommand requestId command args)).reply = .after t (.ok answer) →
        answer.CoherentCommand requestId) ∧
    (∀ executor username,
      (p.serve executor s now deadline (.disconnectUser username)).reply =
          .after t (.ok answer) →
        answer.CoherentDisconnect) ∧
    ∀ executor username routes dnsServers reload params,
      (p.serve executor s now deadline
          (.updateUserRoutes username routes dnsServers reload params)).reply =
          .after t (.ok answer) →
        answer.CoherentRoutes := by
  refine ⟨?_, ?_, ?_⟩
  · intro settings host requestId command args h
    exact coherent_executeCommand h
  · intro executor username h
    exact coherent_disconnectUser h
  · intro executor username routes dnsServers reload params h
    exact coherent_updateUserRoutes h

/-- A process that is killed. -/
def killedRun : ProcessRun := { ending := .signalled }

/-- A command that is killed has failed in all three places, a gateway that refuses without a word
is given a reason, and routes without a directory for them are not written. -/
theorem silent_failures_reported :
    ((ControlPlane.serve {} (CommandTraffic.slowSettings.execute fun _ => .ok killedRun) {} ⟨0⟩
          none (.executeCommand "r1" "slow" [])).reply =
        .after ⟨0⟩ (.ok (.command "r1" false "" "" (-1) "slow exited with status -1")) ∧
      (Answer.command "r1" false "" "" (-1) "slow exited with status -1").CoherentCommand "r1") ∧
    ((ControlPlane.serve {} (fun _ _ => .after ⟨0⟩ (.ok { stderr := " ", exitCode := 1 })) {} ⟨0⟩
          none (.disconnectUser "alice")).reply =
        .after ⟨0⟩ (.ok (.disconnected false 0 "exited with code 1")) ∧
      (Answer.disconnected false 0 "exited with code 1").CoherentDisconnect) ∧
    (ControlPlane.serve {} (fun _ _ => .never) {} ⟨0⟩ none
          (.updateUserRoutes "alice" [] [] true .empty)).reply =
        .after ⟨0⟩ (.ok (.routes false "" false
          "per-user configuration directory is not configured")) ∧
      (Answer.routes false "" false
        "per-user configuration directory is not configured").CoherentRoutes := by
  have hline : CommandTraffic.slowSettings.commandLine "slow" [] = .ok ["slow"] := by decide +kernel
  have hstart : Launcher.start (fun _ => .ok killedRun) ["slow"] = .ok killedRun := rfl
  have houtput : killedRun.output "slow" =
      { exitCode := -1, errorMessage := "slow exited with status -1" } := by decide +kernel
  have hexecute : CommandTraffic.slowSettings.execute (fun _ => .ok killedRun) "slow" [] =
      .after ⟨0⟩ (.ok (killedRun.output "slow")) := by
    rw [ExecutorSettings.execute_of_ok _ hline, hstart]
    rfl
  have hreply : (ControlPlane.serve {}
        (CommandTraffic.slowSettings.execute fun _ => .ok killedRun) {} ⟨0⟩ none
        (.executeCommand "r1" "slow" [])).reply =
      .after ⟨0⟩ (.ok (.command "r1" false "" "" (-1) "slow exited with status -1")) := by
    simp only [ControlPlane.serve, ControlPlane.handle, ControlPlane.begin, Turn.perform, hexecute,
      houtput]
    rfl
  refine ⟨⟨hreply, ?_⟩, ⟨rfl, ?_⟩, rfl, ?_⟩
  · exact (answers_coherent {} {} ⟨0⟩ none ⟨0⟩ _).1 CommandTraffic.slowSettings
      (fun _ => .ok killedRun) "r1" "slow" [] hreply
  · exact (answers_coherent {} {} ⟨0⟩ none ⟨0⟩ _).2.1
      (fun _ _ => .after ⟨0⟩ (.ok { stderr := " ", exitCode := 1 })) "alice" rfl
  · exact (answers_coherent {} {} ⟨0⟩ none ⟨0⟩ _).2.2 (fun _ _ => .never) "alice" [] [] true
      .empty rfl

end GatewayAgent
