import GatewayAgent.Proofs.ControlPlane.Accounting
import GatewayAgent.Proofs.ControlPlane.Effect
import GatewayAgent.Proofs.ControlPlane.Waiting

/-!
# Which limit ends a command

Three spans bear on a command: how long its process runs, the time limit of the executor, and the
allowance of the caller, which is the caller's deadline less a headroom. The command ends with the
shortest of them, and how it ends is decided by which one that is (`least_limit_ends_command`). A
caller who is told that a command took too long is told the whole deadline, not the allowance; and
since no call waits for more than one command, every reply is there when the allowance is over
(`replied_le_allowance`).
-/

namespace GatewayAgent

namespace CommandLine

variable {s : ExecutorSettings} {host : Launcher} {line : CommandLine} {words : List String}
  {process : ProcessRun} {deadline : Option Duration}

/-- A command that is started is bounded twice, by its executor and then by its caller. -/
theorem run_of_start (hline : s.commandLine line.command line.args = .ok words)
    (hstart : host.start words = .ok process) (deadline : Option Duration) :
    line.run (s.execute host) deadline =
      Pending.boundBy ((process.execution line.command).cutAt s.timeout
        (.error (.deadlineExceeded s.timeout))) deadline := by
  rw [run, ExecutorSettings.execute_of_ok host hline, hstart]
  rfl

/-- A command that is bounded by a deadline is over when the allowance is. -/
theorem run_le_allowance (s : ExecutorSettings) (host : Launcher) (line : CommandLine)
    (d : Duration) :
    ∃ t result, line.run (s.execute host) (some d) = .after t result ∧
      t ≤ d.monus deadlineHeadroom := by
  obtain ⟨t, result, hrun⟩ := s.execute_eq_after host line.command line.args
  have hended : ∀ payload, s.execute host line.command line.args ≠ .panic payload := by simp [hrun]
  exact Pending.cutAt_eq_after hended (d.monus deadlineHeadroom) (.error (.deadlineExceeded d))

/-- So is every call, for a call waits for one command at most. -/
theorem replied_le_allowance (p : ControlPlane) (s : ExecutorSettings) (host : Launcher)
    (state : AgentState) (now : Instant) (d : Duration) (request : Request) :
    ∃ t reply, (p.serve (s.execute host) state now (some d) request).reply = .after t reply ∧
      t ≤ d.monus deadlineHeadroom := by
  rw [ControlPlane.serve, ControlPlane.handle]
  cases p.begin state now request with
  | replied state' reply => exact ⟨⟨0⟩, reply, rfl, Nat.zero_le _⟩
  | waiting state' line resume =>
    obtain ⟨t, result, hrun, hle⟩ := run_le_allowance s host line d
    refine ⟨t, (resume result state').2, ?_, hle⟩
    change (Turn.resumeWith state' resume (line.run (s.execute host) (some d))).2.contained = _
    rw [hrun]
    rfl

/-- **The least limit ends a command.** A command that is started ends at the least of three
moments: when its process has run, at the executor's time limit, or when the caller's allowance is
over. If it is the first, what the process has written and how it has ended is the answer; if the
second, the executor's limit is exceeded; if the third, it is the caller's deadline that is
exceeded, and it is reported in full.

The allowance is the deadline less 50 ms, or nothing. A handler that has worked for `lead` before it
waits, as one that writes a file has, has its reply when the allowance is over after that; this is
before the deadline, as long as `lead` is within the 50 ms and within the deadline. -/
theorem least_limit_ends_command (hline : s.commandLine line.command line.args = .ok words)
    (hstart : host.start words = .ok process) (deadline : Option Duration) :
    let run := line.run (s.execute host) deadline
    let ran := endOf process.runtime
    let limit : ℕ∞ := s.timeout.nanos
    let allowed := endOf (allowance deadline)
    let success := decide (process.ending = .exited 0)
    let code : Int := match process.ending with
      | .exited n => n
      | .signalled => -1
    run.arrival = min ran (min limit allowed) ∧
      (ran < min limit allowed →
        ∃ t, process.runtime = some t ∧
          run = .after t (.ok
            { success
              stdout := Text.decodeLossy process.stdout
              stderr := Text.decodeLossy process.stderr
              exitCode := code
              errorMessage := if success then "" else
                line.command ++ " exited with status " ++ toString code })) ∧
      (limit < min ran allowed →
        run = .after s.timeout (.error (.deadlineExceeded s.timeout))) ∧
      ∀ d, deadline = some d →
        ((d.monus deadlineHeadroom).nanos : ℤ) = max ((d.nanos : ℤ) - 50000000) 0 ∧
          (allowed < min ran limit →
            run = .after (d.monus deadlineHeadroom) (.error (.deadlineExceeded d))) ∧
          run.arrival ≤ d.nanos ∧
          ∀ (p : ControlPlane) (state : AgentState) (now : Instant) (request : Request)
            (lead : Duration),
            ∃ t reply, ((p.serve (s.execute host) state now deadline request).reply.delayed lead) =
                .after t reply ∧
              t.nanos ≤ lead.nanos + (d.monus deadlineHeadroom).nanos ∧
              (lead ≤ deadlineHeadroom → lead ≤ d → t ≤ d) := by
  intro run ran limit allowed success code
  have hrun : run = Pending.boundBy ((process.execution line.command).cutAt s.timeout
      (.error (.deadlineExceeded s.timeout))) deadline := run_of_start hline hstart deadline
  have hran : (process.execution line.command).arrival = ran :=
    process.arrival_execution line.command
  have hcut : ((process.execution line.command).cutAt s.timeout
      (.error (.deadlineExceeded s.timeout))).arrival = min ran limit := by
    rw [Pending.arrival_cutAt, hran]
  have harrival : run.arrival = min ran (min limit allowed) := by
    rw [hrun, arrival_boundBy, hcut, min_assoc]
  refine ⟨harrival, fun hlt => ?_, fun hlt => ?_, ?_⟩
  · -- Neither limit is reached.
    obtain ⟨hlimit, hallowed⟩ := lt_min_iff.mp hlt
    have hin : (process.execution line.command).arrival ≤ s.timeout.nanos := hran.trans_le hlimit.le
    rw [hrun, Pending.cutAt_of_le hin, boundBy_of_le (hran.trans_le hallowed.le),
      ProcessRun.execution]
    cases hruntime : process.runtime with
    | none => exact absurd hlimit (by simp [ran, hruntime, endOf])
    | some t =>
      refine ⟨t, rfl, ?_⟩
      simp only [success, code, ProcessRun.output]
      cases process.ending <;> rfl
  · -- The executor's limit is reached, and the caller still waits.
    obtain ⟨hlong, hallowed⟩ := lt_min_iff.mp hlt
    rw [hrun, boundBy_of_le (hcut.trans_le ((min_le_right ran limit).trans hallowed.le)),
      Pending.cutAt_of_lt (hran ▸ hlong)]
  · rintro d rfl
    refine ⟨nanos_monus_deadlineHeadroom d, fun hlt => ?_, ?_, fun p state now request lead => ?_⟩
    · rw [hrun, boundBy_of_lt (hcut ▸ hlt)]
    · rw [harrival]
      have hallowed : allowed ≤ (d.nanos : ℕ∞) :=
        Nat.cast_le.mpr (Nat.sub_le d.nanos deadlineHeadroom.nanos)
      exact (min_le_right _ _).trans ((min_le_right _ _).trans hallowed)
    · obtain ⟨t, reply, hreply, hle⟩ := replied_le_allowance p s host state now d request
      have hdelayed : (p.serve (s.execute host) state now (some d) request).reply.delayed lead =
          .after ⟨lead.nanos + t.nanos⟩ reply := by
        rw [hreply]
        rfl
      exact ⟨⟨lead.nanos + t.nanos⟩, reply, hdelayed, Nat.add_le_add_left hle lead.nanos,
        fun hlead hd => lead_add_le_deadline hlead hd hle⟩

/-- A command without arguments. -/
def slowLine : CommandLine := ⟨"slow", []⟩

/-- A host on which every process complains and fails after 20 ms. -/
def failingHost : Launcher := fun _ => .ok
  { stdout := Text.encode "1 session", stderr := Text.encode "no such user"
    ending := .exited 3
    runtime := some (Duration.ofMillis 20) }

/-- Of a process that fails in time its output and its exit code are reported; one that does not end
is given up with its caller's allowance, long before the executor's ten seconds. -/
theorem process_or_caller_ends_command :
    slowLine.run (CommandTraffic.slowSettings.execute failingHost)
        (some (Duration.ofMillis 200)) =
      .after (Duration.ofMillis 20) (.ok
        { success := false, stdout := "1 session", stderr := "no such user", exitCode := 3,
          errorMessage := "slow exited with status 3" }) ∧
    slowLine.run (CommandTraffic.slowSettings.execute CommandTraffic.slowHost)
        (some (Duration.ofMillis 200)) =
      .after (Duration.ofMillis 150) (.error (.deadlineExceeded (Duration.ofMillis 200))) := by
  have hline : CommandTraffic.slowSettings.commandLine slowLine.command slowLine.args =
      .ok ["slow"] := by decide +kernel
  constructor
  · obtain ⟨-, hended, -, -⟩ := least_limit_ends_command hline
      (show failingHost.start ["slow"] = .ok _ from rfl) (some (Duration.ofMillis 200))
    obtain ⟨t, hruntime, hrun⟩ := hended (lt_min (Nat.cast_lt.mpr (by decide))
      (Nat.cast_lt.mpr (by decide)))
    obtain rfl := Option.some.inj hruntime
    have houtput : Text.decodeLossy (Text.encode "1 session") = "1 session" ∧
        Text.decodeLossy (Text.encode "no such user") = "no such user" := by decide +kernel
    rw [hrun, houtput.1, houtput.2]
    rfl
  · obtain ⟨-, -, -, hdeadline⟩ := least_limit_ends_command hline
      (show CommandTraffic.slowHost.start ["slow"] = .ok { runtime := none } from rfl)
      (some (Duration.ofMillis 200))
    refine (hdeadline _ rfl).2.1 (lt_min ?_ ?_)
    · exact ENat.natCast_lt_top _
    · exact Nat.cast_lt.mpr (by decide)

end CommandLine

end GatewayAgent
