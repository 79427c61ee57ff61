import GatewayAgent.Proofs.ControlPlane.Reporting
import GatewayAgent.Proofs.UserConfig.Atomicity
import GatewayAgent.Proofs.UserConfig.Isolation

/-!
# New routes, step by step

A call for new routes writes the user's file, may then have the gateway drop the user, and replies.
Its first turn is of one of three kinds (`RoutesTurn`): the file was not written, it was and the
call is done, or it was and the call waits for the command. `routesTurn_begin` says that there are
no others, and by these three cases `routes_effects_in_order` says what the call does: the command
comes after the file and only for a user with a live session, and the reply tells how far the call
has come.
-/

namespace GatewayAgent

/-! ### What a call can find and leave behind -/

/-- The user has a session that has not expired. -/
def Registry.HasLive (r : Registry) (now : Instant) (username : String) : Prop :=
  ∃ id s, r.sessions.find? id = some s ∧ s.username = username ∧ s.isExpiredAt now = false

/-- The file of an update is written: there is a directory for it, the username can name a file
there, and the write succeeds. -/
def ControlPlane.WritesFile (p : ControlPlane) (files : FileSystem) (update : UserUpdate) : Prop :=
  SafeUsername update.username = true ∧ ∃ dir, p.userConfigDir = some dir ∧
    (writeUserConfig files (Path.join dir update.username) update).2 = .ok ()

/-- The file of the user has the text of an update. -/
def ControlPlane.HoldsFile (p : ControlPlane) (files : FileSystem) (update : UserUpdate) : Prop :=
  ∃ dir text, p.userConfigDir = some dir ∧ update.render = .ok text ∧
    files.read (Path.join dir update.username) = .ok (Text.encode text)

/-- The file of the user, if there is a directory for it, is what it was before. -/
def ControlPlane.KeepsFile (p : ControlPlane) (files files' : FileSystem) (username : String) :
    Prop :=
  ∀ dir, p.userConfigDir = some dir →
    files'.find (Path.join dir username) = files.find (Path.join dir username)

/-- The reply says that the routes are written. -/
def Reply.Written : Reply → Prop
  | .ok (.routes success _ _ _) => success = true
  | _ => False

/-- The reply says that the user was made to come back. -/
def Reply.Reconnected : Reply → Prop
  | .ok (.routes _ _ reconnected _) => reconnected = true
  | _ => False

/-- What is said of new routes in the end: that they are written exactly if they are, and that the
user was made to come back exactly if moreover the command was given and succeeded. Nothing is said
only if the command was given and has no result. -/
def TellsRoutes (written given : Prop) (run : Execution) : Pending Reply → Prop
  | .after _ reply => (Reply.Written reply ↔ written) ∧
      (Reply.Reconnected reply ↔ written ∧ given ∧ Execution.succeeded run = true)
  | .never => given ∧ run = .never
  | .panic payload => given ∧ run = .panic payload

theorem Registry.countByUsername_pos_iff {r : Registry} {now : Instant} {username : String} :
    0 < r.countByUsername now username ↔ r.HasLive now username := by
  rw [countByUsername, List.countP_pos_iff]
  simp only [Dictionary.mem_values_iff, Bool.and_eq_true, Bool.not_eq_true', decide_eq_true_eq,
    HasLive]
  constructor
  · rintro ⟨s, ⟨id, hs⟩, hlive, huser⟩
    exact ⟨id, s, hs, huser, hlive⟩
  · rintro ⟨id, s, hs, huser, hlive⟩
    exact ⟨s, ⟨id, hs⟩, hlive, huser⟩

/-- What a write leaves in its file: the text of the update if it succeeds, and else what was there
before. -/
theorem target_writeUserConfig (fs : FileSystem) (path : String) (update : UserUpdate) :
    match (writeUserConfig fs path update).2 with
    | .ok _ => ∃ text, update.render = .ok text ∧
        (writeUserConfig fs path update).1.read path = .ok (Text.encode text)
    | .error _ => (writeUserConfig fs path update).1.find path = fs.find path := by
  cases hrender : update.render with
  | error e => rw [writeUserConfig_eq_of_refused hrender]
  | ok text =>
    obtain ⟨outcome, hphase, hcall⟩ := writeUserConfig_eq fs path hrender
    have hreached := (WriteJob.underway_steps fs path (Text.encode text) 5).reached
    have hfiles : duringWrite fs path update 5 =
        (WriteJob.steps 5 fs { path, content := Text.encode text }).1 := by
      rw [duringWrite, hrender]
    rw [hphase, ← hfiles] at hreached
    rw [hcall]
    cases outcome with
    | error e => exact hreached
    | ok _ => exact ⟨text, rfl, hreached.1.target⟩

/-! ### The first turn -/

/-- The first turn of a call for new routes. -/
inductive RoutesTurn (p : ControlPlane) (s : AgentState) (now : Instant) (update : UserUpdate)
    (reload : Bool) : Turn → Prop
  /-- The file was not written, and the reply does not say that anything was done. -/
  | unwritten {files : FileSystem} {reply : Reply} (hwrites : ¬p.WritesFile s.files update)
      (hkeeps : p.KeepsFile s.files files update.username) (hwritten : ¬Reply.Written reply)
      (hreconnected : ¬Reply.Reconnected reply) :
      RoutesTurn p s now update reload (.replied { s with files } reply)
  /-- The file is written, and the user need not come back. -/
  | written {files : FileSystem} {path : String} (hwrites : p.WritesFile s.files update)
      (hholds : p.HoldsFile files update)
      (hstays : ¬(reload = true ∧ s.registry.HasLive now update.username)) :
      RoutesTurn p s now update reload
        (.replied { s with files } (.ok (.routes true path false "")))
  /-- The file is written, and the gateway is asked to drop the user. -/
  | reloading {files : FileSystem} {path : String} (hwrites : p.WritesFile s.files update)
      (hholds : p.HoldsFile files update) (hreload : reload = true)
      (hlive : s.registry.HasLive now update.username) :
      RoutesTurn p s now update reload
        (.waiting { s with files } (disconnectLine update.username)
          (afterReload update.username path))

section

variable {p : ControlPlane} {s : AgentState} {now : Instant} {update : UserUpdate}

/-- The command is given to the executor only for a user with a live session. -/
theorem routesTurn_afterWrite {files : FileSystem} (hwrites : p.WritesFile s.files update)
    (hholds : p.HoldsFile files update) (path : String) (reload : Bool) :
    RoutesTurn p s now update reload
      (afterWrite { s with files } now update.username path reload) := by
  have hgoes : (reload && decide (0 < s.registry.countByUsername now update.username)) = true ↔
      reload = true ∧ s.registry.HasLive now update.username := by
    rw [Bool.and_eq_true, decide_eq_true_eq, Registry.countByUsername_pos_iff]
  rw [afterWrite]
  split
  · next h => exact .reloading hwrites hholds (hgoes.mp h).1 (hgoes.mp h).2
  · next h => exact .written hwrites hholds (mt hgoes.mpr h)

theorem routesTurn_writeUserFile {dir : String} (hdir : p.userConfigDir = some dir)
    (husername : SafeUsername update.username = true) (reload : Bool) :
    RoutesTurn p s now update reload (writeUserFile s now dir update reload) := by
  have htarget := target_writeUserConfig s.files (Path.join dir update.username) update
  simp only [writeUserFile]
  split
  · next files e hwrite =>
    rw [hwrite] at htarget
    refine .unwritten ?_ (fun dir' hdir' => ?_) Bool.false_ne_true Bool.false_ne_true
    · rintro ⟨-, dir', hdir', hok⟩
      obtain rfl : dir = dir' := Option.some.inj (hdir.symm.trans hdir')
      rw [hwrite] at hok
      cases hok
    · obtain rfl : dir = dir' := Option.some.inj (hdir.symm.trans hdir')
      exact htarget
  · next files hwrite =>
    rw [hwrite] at htarget
    obtain ⟨text, hrender, hread⟩ := htarget
    exact routesTurn_afterWrite ⟨husername, dir, hdir, by rw [hwrite]⟩
      ⟨dir, text, hdir, hrender, hread⟩ _ reload

/-- A call that is turned down before it gets to the writer has not touched a file. -/
theorem RoutesTurn.of_declined (hwrites : ¬p.WritesFile s.files update) (reload : Bool)
    {reply : Reply} (hwritten : ¬Reply.Written reply) (hreconnected : ¬Reply.Reconnected reply) :
    RoutesTurn p s now update reload (.replied s reply) :=
  .unwritten hwrites (fun _ _ => rfl) hwritten hreconnected

theorem routesTurn_begin (p : ControlPlane) (s : AgentState) (now : Instant)
    (update : UserUpdate) (reload : Bool) :
    RoutesTurn p s now update reload
      (p.begin s now (.updateUserRoutes update.username update.routes update.dnsServers reload
        update.directives)) := by
  change RoutesTurn p s now update reload (p.updateUserRoutes s now update reload)
  have hnowhere : SafeUsername update.username = false → ¬p.WritesFile s.files update :=
    fun hfalse hwrites => Bool.false_ne_true (hfalse.symm.trans hwrites.1)
  rw [ControlPlane.updateUserRoutes]
  split_ifs with hempty husername
  · exact .of_declined (hnowhere (by rw [hempty]; decide)) reload not_false not_false
  · exact .of_declined (hnowhere (by simpa using husername)) reload not_false not_false
  cases hdir : p.userConfigDir with
  | none =>
    refine .of_declined ?_ reload Bool.false_ne_true Bool.false_ne_true
    rintro ⟨-, dir, hdir', -⟩
    exact Option.some_ne_none dir (hdir'.symm.trans hdir)
  | some dir => exact routesTurn_writeUserFile hdir (by simpa using husername) reload

end

/-! ### The whole call -/

namespace RoutesTurn

variable {p : ControlPlane} {s : AgentState} {now : Instant} {update : UserUpdate} {reload : Bool}
  {turn : Turn} {executor : Executor} {deadline : Option Duration}

theorem commands_perform (h : RoutesTurn p s now update reload turn) :
    (turn.perform executor deadline).commands = [] ∨
      (turn.perform executor deadline).commands = [disconnectLine update.username] := by
  cases h with
  | unwritten | written => exact .inl rfl
  | reloading => exact .inr rfl

theorem commands_perform_iff (h : RoutesTurn p s now update reload turn) :
    (turn.perform executor deadline).commands = [disconnectLine update.username] ↔
      p.WritesFile s.files update ∧ reload = true ∧ s.registry.HasLive now update.username := by
  cases h with
  | unwritten hwrites => exact iff_of_false (List.cons_ne_nil _ _).symm fun h => hwrites h.1
  | written hwrites hholds hstays =>
    exact iff_of_false (List.cons_ne_nil _ _).symm fun h => hstays h.2
  | reloading hwrites hholds hreload hlive => exact iff_of_true rfl ⟨hwrites, hreload, hlive⟩

/-- A command is given by a turn that waits for it, when the file is written. -/
theorem holds_of_commands (h : RoutesTurn p s now update reload turn)
    (hcommands : (turn.perform executor deadline).commands = [disconnectLine update.username]) :
    ∃ state resume, turn = .waiting state (disconnectLine update.username) resume ∧
      p.HoldsFile state.files update := by
  cases h with
  | unwritten | written => exact absurd hcommands.symm (List.cons_ne_nil _ _)
  | reloading hwrites hholds => exact ⟨_, _, rfl, hholds⟩

/-- Executors that make the same of the command take the turn to the same end. -/
theorem perform_congr (h : RoutesTurn p s now update reload turn) {executor' : Executor}
    (hsame : (turn.perform executor deadline).commands = [] ∨
      executor' (disconnectLine update.username).command (disconnectLine update.username).args =
        executor (disconnectLine update.username).command (disconnectLine update.username).args) :
    turn.perform executor' deadline = turn.perform executor deadline := by
  cases h with
  | unwritten | written => rfl
  | reloading =>
    have hline := hsame.resolve_left (List.cons_ne_nil _ _)
    rw [Turn.perform, Turn.perform, hline]

/-- What the turn has made of the files stays as it is. -/
theorem files_perform (h : RoutesTurn p s now update reload turn) (executor : Executor)
    (deadline : Option Duration) :
    (p.WritesFile s.files update →
        p.HoldsFile (turn.perform executor deadline).state.files update) ∧
      (¬p.WritesFile s.files update →
        p.KeepsFile s.files (turn.perform executor deadline).state.files update.username) := by
  cases h with
  | unwritten hwrites hkeeps => exact ⟨fun h => absurd h hwrites, fun _ => hkeeps⟩
  | written hwrites hholds => exact ⟨fun _ => hholds, fun h => absurd hwrites h⟩
  | @reloading files path hwrites hholds =>
    have hfiles : ((Turn.waiting { s with files } (disconnectLine update.username)
        (afterReload update.username path)).perform executor deadline).state.files = files :=
      Turn.perform_waiting (files_afterReload update.username path) executor deadline
    exact ⟨fun _ => hfiles.symm ▸ hholds, fun h => absurd hwrites h⟩

theorem tellsRoutes_perform (h : RoutesTurn p s now update reload turn) (executor : Executor)
    (deadline : Option Duration) :
    TellsRoutes (p.WritesFile s.files update)
      ((turn.perform executor deadline).commands = [disconnectLine update.username])
      ((disconnectLine update.username).run executor deadline)
      (turn.perform executor deadline).reply := by
  cases h with
  | unwritten hwrites hkeeps hwritten hreconnected =>
    exact ⟨iff_of_false hwritten hwrites, iff_of_false hreconnected fun h => hwrites h.1⟩
  | written hwrites =>
    exact ⟨iff_of_true rfl hwrites,
      iff_of_false Bool.false_ne_true fun h => (List.cons_ne_nil _ _).symm h.2.1⟩
  | @reloading files path hwrites =>
    have hgiven : ((Turn.waiting { s with files } (disconnectLine update.username)
        (afterReload update.username path)).perform executor deadline).commands =
      [disconnectLine update.username] := rfl
    change TellsRoutes _ _ _ (Turn.resumeWith { s with files } (afterReload update.username path)
      ((disconnectLine update.username).run executor deadline)).2
    cases (disconnectLine update.username).run executor deadline with
    | never => exact ⟨hgiven, rfl⟩
    | panic payload => exact ⟨hgiven, rfl⟩
    | after t result =>
      simp only [Turn.resumeWith, TellsRoutes, afterReload_snd]
      exact ⟨iff_of_true rfl hwrites, ⟨fun h => ⟨hwrites, hgiven, h⟩, fun h => h.2.2⟩⟩

end RoutesTurn

/-- **New routes are put into effect in order.** A call for new routes gives at most one command,
`occtl disconnect user` with the name of the user, and asks nothing else of the executor. The call
gives it exactly if the file was written, a reload was asked for and the user has a session that has
not expired, and by then the file has the text of the update. If the file was not written, it is
what it was before. The reply says that the routes are written exactly if they are, and that the
user was made to come back exactly if moreover the command was given and succeeded. -/
theorem routes_effects_in_order (p : ControlPlane) (executor : Executor) (s : AgentState)
    (now : Instant) (deadline : Option Duration) (update : UserUpdate) (reload : Bool) :
    let call := Request.updateUserRoutes update.username update.routes update.dnsServers reload
      update.directives
    let line : CommandLine := ⟨"occtl", ["disconnect", "user", update.username]⟩
    let out := p.handle executor s now deadline call
    (out.commands = [] ∨ out.commands = [line]) ∧
    (∀ executor' : Executor,
      out.commands = [] ∨ executor' line.command line.args = executor line.command line.args →
        p.handle executor' s now deadline call = out) ∧
    (out.commands = [line] ↔
      p.WritesFile s.files update ∧ reload = true ∧ s.registry.HasLive now update.username) ∧
    (out.commands = [line] → ∃ state resume,
      p.begin s now call = .waiting state line resume ∧ p.HoldsFile state.files update) ∧
    (p.WritesFile s.files update → p.HoldsFile out.state.files update) ∧
    (¬p.WritesFile s.files update → p.KeepsFile s.files out.state.files update.username) ∧
    TellsRoutes (p.WritesFile s.files update) (out.commands = [line]) (line.run executor deadline)
      out.reply := by
  intro call line out
  have hturn : RoutesTurn p s now update reload (p.begin s now call) :=
    routesTurn_begin p s now update reload
  obtain ⟨hholds, hkeeps⟩ := hturn.files_perform executor deadline
  exact ⟨hturn.commands_perform, fun executor' => hturn.perform_congr, hturn.commands_perform_iff,
    hturn.holds_of_commands, hholds, hkeeps, hturn.tellsRoutes_perform executor deadline⟩

/-- New routes for Alice, who is connected: her file is written, then the gateway is asked to drop
her, and the reply says that she was made to come back. -/
theorem alice_dropped_for_new_routes :
    let p : ControlPlane := { userConfigDir := some "users" }
    let update : UserUpdate := ⟨"alice", ["10.0.0.0/8"], [], .empty⟩
    let executor : Executor := fun _ _ => .after ⟨7⟩ (.ok { success := true })
    let out := p.handle executor connectedAlice ⟨40⟩ none
      (.updateUserRoutes "alice" ["10.0.0.0/8"] [] true .empty)
    p.WritesFile connectedAlice.files update ∧ connectedAlice.registry.HasLive ⟨40⟩ "alice" ∧
      out.commands = [⟨"occtl", ["disconnect", "user", "alice"]⟩] ∧
      p.HoldsFile out.state.files update ∧
      ∃ t reply, out.reply = .after t reply ∧ Reply.Written reply ∧ Reply.Reconnected reply := by
  intro p update executor out
  have hwrites : p.WritesFile connectedAlice.files update :=
    ⟨by decide, "users", rfl, by decide +kernel⟩
  have hlive : connectedAlice.registry.HasLive ⟨40⟩ "alice" :=
    ⟨"s1", { id := "s1", username := "alice" }, rfl, rfl, rfl⟩
  obtain ⟨-, -, hgiven, -, hholds, -, htells⟩ :=
    routes_effects_in_order p executor connectedAlice ⟨40⟩ none update true
  have hcommands := hgiven.mpr ⟨hwrites, rfl, hlive⟩
  refine ⟨hwrites, hlive, hcommands, hholds hwrites, ?_⟩
  cases hreply : out.reply with
  | after t reply =>
    rw [hreply] at htells
    exact ⟨t, reply, rfl, htells.1.mpr hwrites, htells.2.mpr ⟨hwrites, hcommands, rfl⟩⟩
  | never =>
    rw [hreply] at htells
    exact nomatch htells.2
  | panic payload =>
    rw [hreply] at htells
    exact nomatch htells.2

end GatewayAgent
