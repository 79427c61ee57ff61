import GatewayAgent.ControlPlane.Handlers
import GatewayAgent.Proofs.Command.Policy
import GatewayAgent.Proofs.ControlPlane.Waiting
import GatewayAgent.Proofs.Rpc.Metrics

/-!
# Which commands are counted

Calls come in, and some of them wait for a command, which is counted when it has ended
(`CommandTraffic`). A caller's time may be over before that: the command is given up then, and
whatever would have counted it is given up with it. So the counters show the commands that ended
while they were waited for (`Accounted`), and once no command is running they show all that were
started exactly if none of them was given up.

Main statement: `total_eq_started_iff`.
-/

namespace GatewayAgent

/-! ### Commands on their way -/

/-- Every command of an executor with a time limit comes to an end. -/
theorem ExecutorSettings.execute_eq_after (s : ExecutorSettings) (host : Launcher)
    (command : String) (args : List String) :
    ∃ t result, s.execute host command args = .after t result := by
  cases h : s.commandLine command args with
  | error e => exact ⟨_, _, (execute_of_error host h).1⟩
  | ok line =>
    rw [execute_of_ok host h]
    cases host.start line with
    | error e => exact ⟨_, _, rfl⟩
    | ok process =>
      obtain ⟨t, result, hended, -⟩ := Pending.cutAt_eq_after
        (process.execution_ne_panic command) s.timeout (.error (.deadlineExceeded s.timeout))
      exact ⟨t, result, hended⟩

/-- A command that a call has started. -/
structure StartedCommand where
  line : CommandLine
  /-- What comes of the command for whoever waits long enough. -/
  run : Execution
  /-- How long the caller waits, if there is a limit. -/
  deadline : Option Duration
  /-- How the call goes on. -/
  resume : CommandResult → AgentState → AgentState × Reply
  /-- Whether nobody waits for the command any more. -/
  settled : Bool := false

namespace StartedCommand

/-- How long the call waits for the command. -/
def limit (c : StartedCommand) : Option Duration := c.deadline.map (·.monus deadlineHeadroom)

/-- The command takes longer than the call waits for it. -/
def GivenUp (c : StartedCommand) : Prop :=
  ∃ t result deadline, c.run = .after t result ∧ c.deadline = some deadline ∧
    deadline.monus deadlineHeadroom < t

/-- The command type and the status of a command that has ended while it was waited for. -/
def account? (c : StartedCommand) : Option (String × OutcomeClass) :=
  match c.run with
  | .after t result =>
    if c.settled && c.limit.all (t ≤ ·) then some (c.line.command, .of result) else none
  | .never | .panic _ => none

theorem account?_of_running {c : StartedCommand} (h : c.settled = false) : c.account? = none := by
  unfold account?
  cases c.run <;> simp [h]

/-- The command when nobody waits for it any more. -/
def ended (c : StartedCommand) : StartedCommand := { c with settled := true }

theorem account?_ended {c : StartedCommand} {t : Duration} {result : CommandResult}
    (hrun : c.run = .after t result) :
    c.ended.account? =
      if c.limit.all (t ≤ ·) then some (c.line.command, .of result) else none := by
  have hlimit : c.ended.limit = c.limit := rfl
  have hrun' : c.ended.run = .after t result := hrun
  simp only [account?, hrun', hlimit]
  rfl

/-- Of the commands that are over those are not counted that were given up. -/
theorem account?_eq_none_iff {c : StartedCommand} (hsettled : c.settled = true)
    (hends : ∃ t result, c.run = .after t result) : c.account? = none ↔ c.GivenUp := by
  obtain ⟨t, result, hrun⟩ := hends
  simp only [account?, GivenUp, limit, hrun, hsettled]
  cases c.deadline with
  | none => simp
  | some deadline =>
    have hlt : deadline.monus deadlineHeadroom < t ↔ ¬t ≤ deadline.monus deadlineHeadroom :=
      Nat.not_le.symm
    simp [hlt]

end StartedCommand

/-- What can happen next. Commands are known by their number. -/
inductive CommandEvent where
  /-- There is a call, on a host that makes something of a command line. -/
  | call (now : Instant) (deadline : Option Duration) (host : Launcher) (request : Request)
  /-- A command has ended, or the call that waits for it has waited long enough. -/
  | ends (i : Nat)

/-- What the agent remembers, what the metrics show, and the commands that were started. -/
structure CommandTraffic where
  state : AgentState
  metrics : Metrics
  started : List StartedCommand := []

namespace CommandTraffic

/-- Ends the wait for the `i`th command, which is `c`. -/
def finish (s : CommandTraffic) (i : Nat) (c : StartedCommand) : CommandTraffic where
  state := (Turn.resumeWith s.state c.resume (Pending.boundBy c.run c.deadline)).1
  metrics := s.metrics.recordExecution c.line.command c.limit c.run
  started := s.started.set i c.ended

/-- Goes on with one event. -/
def step (p : ControlPlane) (settings : ExecutorSettings) (s : CommandTraffic) :
    CommandEvent → CommandTraffic
  | .call now deadline host request =>
    match p.begin s.state now request with
    | .replied state _ => { s with state }
    | .waiting state line resume =>
      let run := settings.execute host line.command line.args
      { s with state, started := s.started ++ [{ line, run, deadline, resume }] }
  | .ends i =>
    match s.started[i]? with
    | some c => if c.settled then s else s.finish i c
    | none => s

/-- Goes on with some events. -/
def run (p : ControlPlane) (settings : ExecutorSettings) (s : CommandTraffic)
    (events : List CommandEvent) : CommandTraffic :=
  events.foldl (step p settings) s

/-- How many commands have ended while they were waited for, of those with certain types and
statuses. -/
def countWhere (s : CommandTraffic) (P : String × OutcomeClass → Bool) : Nat :=
  s.started.countP fun c => c.account?.any P

/-- How many commands of a type have ended with a status while they were waited for. -/
def endedWith (s : CommandTraffic) (command : String) (status : OutcomeClass) : Nat :=
  s.countWhere (· = (command, status))

variable {p : ControlPlane} {settings : ExecutorSettings} {s s' : CommandTraffic} {m : Metrics}
  {i : Nat} {c : StartedCommand}

/-- A call whose command ends before anything else happens leaves the agent as `handle` does. -/
theorem state_call_ends (p : ControlPlane) (settings : ExecutorSettings) (s : CommandTraffic)
    (now : Instant) (deadline : Option Duration) (host : Launcher) (request : Request) :
    (s.run p settings [.call now deadline host request, .ends s.started.length]).state =
      (p.handle (settings.execute host) s.state now deadline request).state := by
  simp only [run, List.foldl_cons, List.foldl_nil, ControlPlane.handle]
  cases hturn : p.begin s.state now request with
  | replied state reply => simp [step, hturn, Turn.perform]
  | waiting state line resume => simp [step, hturn, Turn.perform, finish]

/-! ### What the counters show -/

/-- What the counters show since they showed `m`. -/
structure Accounted (m : Metrics) (s : CommandTraffic) : Prop where
  /-- Every command comes to an end, if it is waited for. -/
  ends : ∀ c ∈ s.started, ∃ t result, c.run = .after t result
  counted : ∀ command status,
    s.metrics.countOf ⟨.commands, Metrics.commandLabels command status⟩ =
      m.countOf ⟨.commands, Metrics.commandLabels command status⟩ + s.endedWith command status
  failed : ∀ command status,
    s.metrics.countOf ⟨.commandErrors, Metrics.commandLabels command status⟩ =
      m.countOf ⟨.commandErrors, Metrics.commandLabels command status⟩ +
        s.countWhere fun a => a.2 ≠ .success ∧ a = (command, status)
  total : s.metrics.total .commands = m.total .commands + s.countWhere fun _ => true
  totalFailed : s.metrics.total .commandErrors =
    m.total .commandErrors + s.countWhere (·.2 ≠ .success)

theorem accounted_start (m : Metrics) (state : AgentState) :
    Accounted m { state, metrics := m } :=
  ⟨by simp, fun _ _ => rfl, fun _ _ => rfl, rfl, rfl⟩

/-- A command that is over adds what it is counted under. -/
theorem countWhere_finish (hget : s.started[i]? = some c) (hrunning : c.settled = false)
    (P : String × OutcomeClass → Bool) :
    (s.finish i c).countWhere P = s.countWhere P + if c.ended.account?.any P then 1 else 0 := by
  obtain ⟨hi, hc⟩ := List.getElem?_eq_some_iff.mp hget
  simp only [countWhere, finish, List.countP_set hi, hc,
    StartedCommand.account?_of_running hrunning]
  simp

/-- What neither records anything nor ends a command in time keeps the accounts. -/
theorem Accounted.of_unchanged (h : s.Accounted m)
    (hends : ∀ c ∈ s'.started, ∃ t result, c.run = .after t result)
    (hmetrics : s'.metrics = s.metrics) (hcount : ∀ P, s'.countWhere P = s.countWhere P) :
    s'.Accounted m := by
  refine ⟨hends, fun command status => ?_, fun command status => ?_, ?_, ?_⟩
  · rw [hmetrics, h.counted, endedWith, endedWith, hcount]
  · rw [hmetrics, h.failed, hcount]
  · rw [hmetrics, h.total, hcount]
  · rw [hmetrics, h.totalFailed, hcount]

theorem Accounted.call (h : s.Accounted m) (p : ControlPlane) (settings : ExecutorSettings)
    (now : Instant) (deadline : Option Duration) (host : Launcher) (request : Request) :
    (s.step p settings (.call now deadline host request)).Accounted m := by
  simp only [step]
  cases p.begin s.state now request with
  | replied state reply => exact h.of_unchanged h.ends rfl fun _ => rfl
  | waiting state line resume =>
    refine h.of_unchanged (fun c hc => ?_) rfl fun P => ?_
    · rcases List.mem_append.mp hc with hc | hc
      · exact h.ends c hc
      · rw [List.mem_singleton.mp hc]
        exact settings.execute_eq_after host line.command line.args
    · simp [countWhere, StartedCommand.account?_of_running]

/-- A command that ends while it is waited for is counted once, and as an error unless it has
succeeded. -/
theorem Accounted.finish_of_waited (h : s.Accounted m) (hget : s.started[i]? = some c)
    (hrunning : c.settled = false) {t : Duration} {result : CommandResult}
    (hrun : c.run = .after t result) (hwaited : c.limit.all (t ≤ ·) = true)
    (hends : ∀ c' ∈ (s.finish i c).started, ∃ t result, c'.run = .after t result) :
    (s.finish i c).Accounted m := by
  have hmetrics : (s.finish i c).metrics = s.metrics.recordCommand c.line.command result t := by
    simp only [CommandTraffic.finish, Metrics.recordExecution, hrun, if_pos hwaited]
  have hcount : ∀ P, (s.finish i c).countWhere P =
      s.countWhere P + if P (c.line.command, .of result) then 1 else 0 := by
    intro P
    rw [countWhere_finish hget hrunning, StartedCommand.account?_ended hrun, if_pos hwaited,
      Option.any_some]
  have hlabels : ∀ command status,
      (Metrics.commandLabels command status = Metrics.commandLabels c.line.command (.of result)) =
        ((c.line.command, OutcomeClass.of result) = (command, status)) := by
    intro command status
    rw [Metrics.commandLabels_inj, Prod.mk.injEq, eq_comm (a := command), eq_comm (a := status)]
  refine ⟨hends, fun command status => ?_, fun command status => ?_, ?_, ?_⟩
  · rw [hmetrics, Metrics.countOf_recordCommand, h.counted, endedWith, endedWith, hcount,
      Nat.add_assoc]
    simp only [hlabels, decide_eq_true_eq]
  · rw [hmetrics, Metrics.countOf_recordCommand_errors, h.failed, hcount, Nat.add_assoc]
    simp only [hlabels, decide_eq_true_eq]
  · rw [hmetrics, Metrics.total_recordCommand, h.total, hcount, Nat.add_assoc]
    rfl
  · rw [hmetrics, Metrics.total_recordCommand_errors, h.totalFailed, hcount, Nat.add_assoc]
    simp

theorem Accounted.finish (h : s.Accounted m) (hget : s.started[i]? = some c)
    (hrunning : c.settled = false) : (s.finish i c).Accounted m := by
  obtain ⟨t, result, hrun⟩ := h.ends c (List.mem_of_getElem? hget)
  have hends : ∀ c' ∈ (s.finish i c).started, ∃ t result, c'.run = .after t result := by
    intro c' hc'
    rcases List.mem_or_eq_of_mem_set hc' with hc' | rfl
    · exact h.ends c' hc'
    · exact ⟨t, result, hrun⟩
  by_cases hwaited : c.limit.all (t ≤ ·) = true
  · exact h.finish_of_waited hget hrunning hrun hwaited hends
  · -- The caller's time was over first, and the record went with the command.
    refine h.of_unchanged hends ?_ fun P => ?_
    · simp only [CommandTraffic.finish, Metrics.recordExecution, hrun, if_neg hwaited]
    · rw [countWhere_finish hget hrunning, StartedCommand.account?_ended hrun, if_neg hwaited]
      rfl

theorem Accounted.step (h : s.Accounted m) (event : CommandEvent) :
    (s.step p settings event).Accounted m := by
  cases event with
  | call now deadline host request => exact h.call p settings now deadline host request
  | ends i =>
    simp only [CommandTraffic.step]
    cases hget : s.started[i]? with
    | none => exact h
    | some c =>
      dsimp only
      split
      · exact h
      · next hrunning => exact h.finish hget (by simpa using hrunning)

theorem Accounted.run (h : s.Accounted m) (events : List CommandEvent) :
    (s.run p settings events).Accounted m := by
  induction events generalizing s with
  | nil => exact h
  | cons event events ih => exact ih (h.step event)

/-! ### What is missing -/

theorem countWhere_failed (s : CommandTraffic) (command : String) (status : OutcomeClass) :
    (s.countWhere fun a => a.2 ≠ .success ∧ a = (command, status)) =
      if status = .success then 0 else s.endedWith command status := by
  by_cases hstatus : status = .success
  · have hnone : (fun a : String × OutcomeClass =>
        decide (a.2 ≠ .success ∧ a = (command, status))) = fun _ => false := by
      funext a
      rw [decide_eq_false_iff_not]
      rintro ⟨hne, rfl⟩
      exact hne hstatus
    rw [if_pos hstatus, hnone, countWhere]
    simp
  · have hall : (fun a : String × OutcomeClass =>
        decide (a.2 ≠ .success ∧ a = (command, status))) =
          fun a => decide (a = (command, status)) := by
      funext a
      rw [decide_eq_decide, and_iff_right_iff_imp]
      rintro rfl
      exact hstatus
    rw [if_neg hstatus, hall, endedWith]

/-- The commands that are counted and those that are not, because they are running or were given
up, are all. -/
theorem Accounted.length_started (h : s.Accounted m) :
    s.metrics.total .commands + s.started.countP (·.account? = none) =
      m.total .commands + s.started.length := by
  have hcounted : s.started.countP (fun c => ¬decide (c.account? = none) = true) =
      s.countWhere fun _ => true := by
    refine List.countP_congr fun c _ => ?_
    cases c.account? <;> simp
  have hlength := List.length_eq_countP_add_countP (fun c => decide (c.account? = none))
    (l := s.started)
  rw [h.total, hlength, hcounted]
  omega

/-- **Which commands are counted.** Calls come in and commands end in any order, with any deadlines
of the callers, on an executor with a time limit. Then

* every command comes to an end if it is waited for; once it is over, it is counted under its type
  and the status of its end unless it was given up;
* the counters of commands and of errors show, for every type and status, how many commands are
  counted there, and a success is no error;
* over all labels the counters show all commands but those that are running or were given up, and
  all failures among them;
* hence, when no command is running, the counter shows all that were started exactly if none of them
  was given up. -/
theorem total_eq_started_iff (p : ControlPlane) (settings : ExecutorSettings) (state : AgentState)
    (m : Metrics) (events : List CommandEvent) :
    let s := run p settings { state, metrics := m } events
    (∀ c ∈ s.started, ∃ t result, c.run = .after t result ∧
      (c.settled = true → c.account? =
        if c.limit.all (t ≤ ·) then some (c.line.command, .of result) else none) ∧
      (c.settled = true → (c.account? = none ↔ c.GivenUp))) ∧
    (∀ command status,
      s.metrics.countOf ⟨.commands, Metrics.commandLabels command status⟩ =
        m.countOf ⟨.commands, Metrics.commandLabels command status⟩ + s.endedWith command status ∧
      s.metrics.countOf ⟨.commandErrors, Metrics.commandLabels command status⟩ =
        m.countOf ⟨.commandErrors, Metrics.commandLabels command status⟩ +
          if status = .success then 0 else s.endedWith command status) ∧
    (s.metrics.total .commands + s.started.countP (·.account? = none) =
      m.total .commands + s.started.length ∧
      s.metrics.total .commandErrors =
        m.total .commandErrors + s.countWhere (·.2 ≠ .success)) ∧
    ((∀ c ∈ s.started, c.settled = true) →
      (s.metrics.total .commands = m.total .commands + s.started.length ↔
        ∀ c ∈ s.started, ¬c.GivenUp)) := by
  intro s
  have h : s.Accounted m := (accounted_start m state).run events
  refine ⟨fun c hc => ?_, fun command status => ⟨h.counted command status, ?_⟩,
    ⟨h.length_started, h.totalFailed⟩, fun hsettled => ?_⟩
  · obtain ⟨t, result, hrun⟩ := h.ends c hc
    refine ⟨t, result, hrun, fun hsettled => ?_, fun hsettled => ?_⟩
    · have hended : c.ended = c := by rw [StartedCommand.ended, ← hsettled]
      rw [← StartedCommand.account?_ended hrun, hended]
    · exact StartedCommand.account?_eq_none_iff hsettled ⟨t, result, hrun⟩
  · rw [h.failed, countWhere_failed]
  · have hlength := h.length_started
    have hnone : s.started.countP (·.account? = none) = 0 ↔ ∀ c ∈ s.started, ¬c.GivenUp := by
      rw [List.countP_eq_zero]
      refine forall₂_congr fun c hc => ?_
      rw [decide_eq_true_eq, StartedCommand.account?_eq_none_iff (hsettled c hc) (h.ends c hc)]
    rw [← hnone]
    omega

/-- An executor for a single command type, with a limit of ten seconds. -/
def slowSettings : ExecutorSettings where
  allowed := ["slow"]
  programs := .empty
  sudoUser := none
  serviceUnit := "gateway"
  timeout := Duration.ofSecs 10

/-- A host on which every process runs forever. -/
def slowHost : Launcher := fun _ => .ok { runtime := none }

/-- One command, for a caller who waits that long. -/
def slowEvents (deadline : Option Duration) : List CommandEvent :=
  [.call ⟨0⟩ deadline slowHost (.executeCommand "r1" "slow" []), .ends 0]

/-- A command that the executor has stopped is counted, for a caller without a deadline. -/
theorem stopped_command_counted :
    let s := run {} slowSettings { state := {}, metrics := {} } (slowEvents none)
    s.started.length = 1 ∧ s.metrics.total .commands = 1 ∧
      s.endedWith "slow" .timeout = 1 := by
  obtain ⟨-, -, -, htotal⟩ := total_eq_started_iff {} slowSettings {} {} (slowEvents none)
  intro s
  have hsettled : ∀ c ∈ s.started, c.settled = true := by decide +kernel
  have hdeadline : ∀ c ∈ s.started, c.deadline = none := by decide +kernel
  have hnone : ∀ c ∈ s.started, ¬c.GivenUp := by
    rintro c hc ⟨t, result, deadline, -, hsome, -⟩
    rw [hdeadline c hc] at hsome
    cases hsome
  exact ⟨rfl, (htotal hsettled).mpr hnone, by decide +kernel⟩

/-- A command that its caller has given up is over and not counted. -/
theorem given_up_command_lost :
    let s := run {} slowSettings { state := {}, metrics := {} }
      (slowEvents (some (Duration.ofMillis 100)))
    s.started.length = 1 ∧ (∀ c ∈ s.started, c.settled = true) ∧ s.metrics.total .commands = 0 := by
  decide +kernel

end CommandTraffic

end GatewayAgent
