import GatewayAgent.Command.Execution
import Mathlib.Data.List.Infix

/-!
# What an executor starts

An executor starts a command line only for a request that its settings permit
(`ExecutorSettings.Permits`): the command type is on the allow-list, every argument is a
`SafeArgument`, and the service manager is asked for one of its actions. `started_iff_permitted`
says that for such a request the host is asked to start one command line, which the settings and the
request determine, and that it is asked for none by any other request, which is refused at once.

What is started is observed at the host: `recording` is a host that notes each command line that it
is asked to start.
-/

namespace GatewayAgent

/-! ### Arguments -/

/-- An argument that is harmless wherever it ends up: not too long, without anything that a shell
would interpret, without control characters but for the tab, without a step to a parent directory,
and not a flag. -/
structure SafeArgument (a : String) : Prop where
  short : a.utf8ByteSize ≤ 256
  plain : ∀ c ∈ a.toList, c ∉ ";&|><$()\x7b\x7d[]\x60".toList
  visible : ∀ c ∈ a.toList, Text.Control c = true → c = '\t'
  below : ¬"../".toList <:+: a.toList
  unflagged : a.toList.head? ≠ some '-'

theorem hasParentStep_iff {cs : List Char} :
    hasParentStep cs = true ↔ ['.', '.', '/'] <:+: cs := by
  induction cs with
  | nil => simp [hasParentStep]
  | cons c r ih =>
    rw [hasParentStep, Bool.or_eq_true, ih, List.isPrefixOf_iff_prefix, List.infix_cons_iff]

theorem argumentFault?_eq_none_iff_safe {a : String} :
    argumentFault? a = none ↔ SafeArgument a := by
  rw [argumentFault?_eq_none_iff]
  constructor
  · rintro ⟨hshort, hchars, hstep, hflag⟩
    refine ⟨hshort, fun c hc => (hchars c hc).1, fun c hc => (hchars c hc).2, ?_, hflag⟩
    rw [← Bool.not_eq_true, hasParentStep_iff] at hstep
    exact hstep
  · intro h
    refine ⟨h.short, fun c hc => ⟨h.plain c hc, h.visible c hc⟩, ?_, h.unflagged⟩
    rw [← Bool.not_eq_true, hasParentStep_iff]
    exact h.below

/-! ### Requests that are permitted -/

/-- The settings permit a request. -/
structure ExecutorSettings.Permits (s : ExecutorSettings) (command : String) (args : List String) :
    Prop where
  allowed : command ∈ s.allowed
  safe : ∀ a ∈ args, SafeArgument a
  narrowed : command = "systemctl" →
    ∃ action ∈ ["start", "stop", "restart", "reload", "status", "is-active"], args = [action]

/-- The command line for a request: the program of the command type, run as another user where one
is set, with the arguments of the request, for the service manager with its unit. -/
def ExecutorSettings.lineFor (s : ExecutorSettings) (command : String) (args : List String) :
    List String :=
  (match s.sudoUser with
    | some user => ["sudo", "-n", "-u", user]
    | none => []) ++
    (s.programs.find? command).getD command ::
      if command = "systemctl" then args ++ [s.serviceUnit] else args

/-- Why a request is refused: the allow-list comes first. -/
def ExecutorSettings.Refusal (s : ExecutorSettings) (command : String) (e : CommandError) : Prop :=
  (command ∉ s.allowed ∧ e = .notAllowed command) ∨
    (command ∈ s.allowed ∧ ∃ reason, e = .invalidArguments reason)

namespace ExecutorSettings

variable {s : ExecutorSettings} {command : String} {args args' line : List String}
  {e : CommandError}

theorem checkPolicy_eq_ok_iff :
    checkPolicy s.allowed command args = .ok () ↔
      command ∈ s.allowed ∧ ∀ a ∈ args, SafeArgument a := by
  simp only [← argumentFault?_eq_none_iff_safe, ← argumentsFault?_eq_none_iff]
  rw [checkPolicy]
  by_cases hallowed : command ∈ s.allowed
  · cases hfault : argumentsFault? args <;> simp [hallowed]
  · simp [hallowed]

theorem refusal_of_checkPolicy (h : checkPolicy s.allowed command args = .error e) :
    s.Refusal command e := by
  rw [checkPolicy] at h
  by_cases hallowed : command ∈ s.allowed
  · cases hfault : argumentsFault? args with
    | none => simp [hallowed, hfault] at h
    | some f =>
      have heq : e = .invalidArguments f.message := by simpa [hallowed, hfault, eq_comm] using h
      exact .inr ⟨hallowed, f.message, heq⟩
  · have heq : e = .notAllowed command := by simpa [hallowed, eq_comm] using h
    exact .inl ⟨hallowed, heq⟩

theorem effectiveArguments_eq_ok_iff :
    s.effectiveArguments command args = .ok args' ↔
      (command = "systemctl" → ∃ action ∈ serviceActions, args = [action]) ∧
        args' = if command = "systemctl" then args ++ [s.serviceUnit] else args := by
  unfold effectiveArguments serviceManager
  by_cases hcommand : command = "systemctl"
  · simp only [hcommand, ne_eq, not_true_eq_false, if_false, if_true, forall_const]
    split
    · next action => by_cases haction : action ∈ serviceActions <;> simp [haction, eq_comm]
    · next hargs =>
      simp only [reduceCtorEq, false_iff, not_and]
      rintro ⟨action, -, rfl⟩
      exact absurd rfl (hargs action)
  · simp [hcommand, eq_comm]

theorem invalid_of_effectiveArguments (h : s.effectiveArguments command args = .error e) :
    ∃ reason, e = .invalidArguments reason := by
  unfold effectiveArguments at h
  split_ifs at h
  split at h
  · split_ifs at h
    exact ⟨_, (Except.error.inj h).symm⟩
  · exact ⟨_, (Except.error.inj h).symm⟩

theorem argv_program (s : ExecutorSettings) (command : String) (args : List String) :
    s.argv (s.program command) (if command = "systemctl" then args ++ [s.serviceUnit] else args) =
      s.lineFor command args := by
  rw [argv, lineFor, program]
  cases s.sudoUser <;> rfl

/-- A request that is permitted has one command line. -/
theorem commandLine_eq_ok_iff :
    s.commandLine command args = .ok line ↔
      s.Permits command args ∧ line = s.lineFor command args := by
  rw [commandLine, ← argv_program]
  cases hpolicy : checkPolicy s.allowed command args with
  | error e =>
    have hnot : ¬s.Permits command args := fun h => by
      rw [checkPolicy_eq_ok_iff.mpr ⟨h.allowed, h.safe⟩] at hpolicy
      cases hpolicy
    simp [bind, Except.bind, hnot]
  | ok u =>
    obtain ⟨hallowed, hsafe⟩ := checkPolicy_eq_ok_iff.mp hpolicy
    cases heffective : s.effectiveArguments command args with
    | error e =>
      have hnot : ¬s.Permits command args := fun h => by
        rw [effectiveArguments_eq_ok_iff.mpr ⟨h.narrowed, rfl⟩] at heffective
        cases heffective
      simp [bind, Except.bind, hnot]
    | ok args' =>
      obtain ⟨hnarrowed, rfl⟩ := effectiveArguments_eq_ok_iff.mp heffective
      have hpermits : s.Permits command args := ⟨hallowed, hsafe, hnarrowed⟩
      simp [bind, Except.bind, pure, Except.pure, hpermits, eq_comm]

theorem refusal_of_commandLine (h : s.commandLine command args = .error e) :
    s.Refusal command e := by
  rw [commandLine] at h
  cases hpolicy : checkPolicy s.allowed command args with
  | error e' =>
    rw [hpolicy] at h
    cases h
    exact refusal_of_checkPolicy hpolicy
  | ok u =>
    have hallowed := (checkPolicy_eq_ok_iff.mp hpolicy).1
    cases heffective : s.effectiveArguments command args with
    | error e' =>
      simp only [hpolicy, heffective, bind, Except.bind, Except.error.injEq] at h
      exact .inr ⟨hallowed, h ▸ invalid_of_effectiveArguments heffective⟩
    | ok args' => simp [hpolicy, heffective, bind, Except.bind, pure, Except.pure] at h

end ExecutorSettings

/-! ### Command lines that are started -/

/-- A host that notes each command line that it is asked to start. -/
def recording (host : Launcher) (line : List String) :
    StateM (List (List String)) (Except SystemError ProcessRun) :=
  modifyGet fun asked => (host line, asked ++ [line])

theorem launch_of_mem {m : Type → Type} [Monad m]
    (host : List String → m (Except SystemError ProcessRun)) {line : List String}
    (h : ∃ word ∈ line, '\x00' ∈ word.toList) : launch host line = pure (.error .nulInCommand) :=
  if_pos (by simpa using h)

theorem launch_of_forall {m : Type → Type} [Monad m]
    (host : List String → m (Except SystemError ProcessRun)) {line : List String}
    (h : ∀ word ∈ line, '\x00' ∉ word.toList) : launch host line = host line :=
  if_neg (by simpa using h)

namespace ExecutorSettings

/-- What comes of a request, and the command lines that the host was asked to start for it, in their
order. -/
def executeRecorded (s : ExecutorSettings) (host : Launcher) (command : String)
    (args : List String) : Execution × List (List String) :=
  (s.executeBy (recording host) command args).run []

variable {s : ExecutorSettings} {command : String} {args line : List String}

/-- A request that is refused never gets to the host. -/
theorem execute_of_error {e : CommandError} (host : Launcher)
    (h : s.commandLine command args = .error e) :
    s.execute host command args = .after ⟨0⟩ (.error e) ∧
      s.executeRecorded host command args = (.after ⟨0⟩ (.error e), []) := by
  constructor
  · simp only [execute, executeBy, h]
    rfl
  · simp only [executeRecorded, executeBy, h]
    rfl

/-- What comes of a request with a command line is what comes of starting it. -/
theorem execute_of_ok (host : Launcher) (h : s.commandLine command args = .ok line) :
    s.execute host command args = s.outcome command (host.start line) := by
  simp only [execute, executeBy, h]
  rfl

/-- A command line without NUL characters is what the host is asked to start. -/
theorem executeRecorded_of_forall (host : Launcher) (h : s.commandLine command args = .ok line)
    (hline : ∀ word ∈ line, '\x00' ∉ word.toList) :
    host.start line = host line ∧
      s.executeRecorded host command args = (s.outcome command (host line), [line]) := by
  constructor
  · rw [Launcher.start, launch_of_forall _ hline]
    rfl
  · simp only [executeRecorded, executeBy, h, launch_of_forall _ hline]
    rfl

/-- A command line with a NUL character cannot even be asked for. -/
theorem executeRecorded_of_mem (host : Launcher) (h : s.commandLine command args = .ok line)
    (hline : ∃ word ∈ line, '\x00' ∈ word.toList) :
    host.start line = .error .nulInCommand ∧
      s.executeRecorded host command args = (s.outcome command (.error .nulInCommand), []) := by
  constructor
  · rw [Launcher.start, launch_of_mem _ hline]
    rfl
  · simp only [executeRecorded, executeBy, h, launch_of_mem _ hline]
    rfl

/-- **Nothing else is started.** A request that is permitted has its command line started: the host
is asked for that line and for nothing else, and what comes of the request is what the host makes of
it. Only a NUL character in the line, which the settings alone can bring in, keeps it from the host,
and then starting it fails. For a request that is not permitted the host is asked for nothing, and
the request is refused at once, because its command type is not allowed or else because of its
arguments. -/
theorem started_iff_permitted (s : ExecutorSettings) (host : Launcher) (command : String)
    (args : List String) :
    let line := s.lineFor command args
    let asked := (s.executeRecorded host command args).2
    (s.executeRecorded host command args).1 = s.execute host command args ∧
      ((s.Permits command args ∧
          ((∀ word ∈ line, '\x00' ∉ word.toList) ∧ asked = [line] ∧
              s.execute host command args = s.outcome command (host line) ∨
            (∃ word ∈ line, '\x00' ∈ word.toList) ∧ asked = [] ∧
              s.execute host command args = s.outcome command (.error .nulInCommand))) ∨
        (¬s.Permits command args ∧ asked = [] ∧
          ∃ e, s.Refusal command e ∧ s.execute host command args = .after ⟨0⟩ (.error e))) := by
  intro line asked
  cases h : s.commandLine command args with
  | ok found =>
    obtain ⟨hpermits, rfl⟩ := commandLine_eq_ok_iff.mp h
    have hexecute := execute_of_ok host h
    by_cases hline : ∀ word ∈ line, '\x00' ∉ word.toList
    · obtain ⟨hstart, hrecorded⟩ := executeRecorded_of_forall host h hline
      rw [hstart] at hexecute
      exact ⟨by rw [hrecorded, hexecute], .inl ⟨hpermits, .inl
        ⟨hline, congrArg Prod.snd hrecorded, hexecute⟩⟩⟩
    · push Not at hline
      obtain ⟨hstart, hrecorded⟩ := executeRecorded_of_mem host h hline
      rw [hstart] at hexecute
      exact ⟨by rw [hrecorded, hexecute], .inl ⟨hpermits, .inr
        ⟨hline, congrArg Prod.snd hrecorded, hexecute⟩⟩⟩
  | error e =>
    have hnot : ¬s.Permits command args := fun hpermits => by
      rw [commandLine_eq_ok_iff.mpr ⟨hpermits, rfl⟩] at h
      cases h
    obtain ⟨hexecute, hrecorded⟩ := execute_of_error host h
    exact ⟨by rw [hrecorded, hexecute], .inr
      ⟨hnot, congrArg Prod.snd hrecorded, e, refusal_of_commandLine h, hexecute⟩⟩

/-- An executor that runs two programs as another user, the service manager from its own path. -/
def twoPrograms : ExecutorSettings where
  allowed := ["occtl", "systemctl"]
  programs := .ofList [("systemctl", "/usr/bin/systemctl")]
  sudoUser := some "vpn"
  serviceUnit := "ocserv"
  timeout := .ofSecs 10

/-- A restart of the service is permitted and started, and its output comes of it. -/
theorem restart_started :
    let host : Launcher := fun _ => .ok { stdout := Text.encode "done", runtime := some ⟨5⟩ }
    let line := ["sudo", "-n", "-u", "vpn", "/usr/bin/systemctl", "restart", "ocserv"]
    twoPrograms.Permits "systemctl" ["restart"] ∧
      (twoPrograms.executeRecorded host "systemctl" ["restart"]).2 = [line] ∧
      twoPrograms.execute host "systemctl" ["restart"] =
        .after ⟨5⟩ (.ok { success := true, stdout := "done" }) := by
  intro host line
  have hcommand : twoPrograms.commandLine "systemctl" ["restart"] = .ok line := by decide +kernel
  have hpermits : twoPrograms.Permits "systemctl" ["restart"] :=
    (commandLine_eq_ok_iff.mp hcommand).1
  have hline : twoPrograms.lineFor "systemctl" ["restart"] = line := by decide +kernel
  have hplain : ∀ word ∈ line, '\x00' ∉ word.toList := by decide
  obtain ⟨-, ⟨-, hstarted⟩ | ⟨hnot, -⟩⟩ :=
    started_iff_permitted twoPrograms host "systemctl" ["restart"]
  · rw [hline] at hstarted
    obtain ⟨-, hasked, hexecute⟩ | ⟨⟨word, hword, hnul⟩, -⟩ := hstarted
    · refine ⟨hpermits, hasked, hexecute.trans ?_⟩
      have houtput : (ProcessRun.output "systemctl"
          { stdout := Text.encode "done", runtime := some ⟨5⟩ }) =
        { success := true, stdout := "done" } := by decide +kernel
      rw [← houtput]
      rfl
    · exact absurd hnul (hplain word hword)
  · exact absurd hpermits hnot

end ExecutorSettings

end GatewayAgent
