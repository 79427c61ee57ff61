import GatewayAgent.Proofs.Host.FileProgram
import GatewayAgent.Proofs.UserConfig.Isolation

/-!
# Files stay in their directory

What a call for new routes does with files is a `FileProgram`: it makes requests, and the rest of
the call goes on from its value without the files (`ControlPlane.handle_updateUserRoutes`). Which
paths the program touches does not depend on what is in the file system, and can be read off it:
none if the username cannot name a file, and else at most the file of the user, its backup and its
staging file (`ControlPlane.touches_routesProgram_iff`).

These three are entries of the configured directory, whatever directory that is: an accepted
username has no slash and is not a special name, so the path has the parts of the directory and one
more (`Path.isChild_join`). `files_stay_in_directory` puts this together.
-/

namespace GatewayAgent

/-! ### Entries of a directory -/

/-- The path leads to an entry of a directory: its parts are those of the directory and one name,
which is neither special nor a path of its own. -/
structure Path.IsChild (dir name path : String) : Prop extends IsFileName name where
  names_eq : Path.names path = Path.names dir ++ [name]
  isAbsolute_eq : Path.isAbsolute path = Path.isAbsolute dir

namespace Path

variable {dir name path : String}

/-- A path is absolute with or without the slash at its end. -/
theorem isAbsolute_asStem (dir : String) : isAbsolute (asStem dir) = isAbsolute dir := by
  rw [asStem]
  split_ifs with h
  · rfl
  · have hne : dir.toList ≠ [] := fun hnil => h (by simp [String.toList_eq_nil_iff.mp hnil])
    obtain ⟨c, cs, hcs⟩ := List.exists_cons_of_ne_nil hne
    rw [isAbsolute, isAbsolute, String.toList_append, hcs]
    rfl

/-- A path has the same names with or without the slash at its end. -/
theorem names_asStem (dir : String) : names (asStem dir) = names dir := by
  rw [asStem]
  split_ifs with h
  · rfl
  · have hslash : "/".toList = '/' :: [] := rfl
    have hparts : parts (dir ++ "/") = parts dir ++ [""] := by
      rw [parts, String.toList_append, hslash, segments_append_slash, List.map_append]
      rfl
    rw [names, names, hparts, List.filter_append]
    simp

/-- A file name joined to a directory is a child of it. -/
theorem isChild_join (dir : String) (hname : IsFileName name) :
    IsChild dir name (join dir name) := by
  have hjoin := join_eq_stem_append dir hname.toIsName
  refine ⟨hname, ?_, ?_⟩
  · rw [hjoin, names_append (isStem_asStem dir) hname.toIsName, names_asStem]
  · rw [hjoin, isAbsolute_append hname.toIsName, isAbsolute_asStem]

/-- Wherever the directory leads, the path leads to an entry there. -/
theorem IsChild.exists_base (h : IsChild dir name path) {fs : FileSystem} {place : Location}
    (hlocate : fs.locate path = .ok place) :
    ∃ base, fs.walk (fs.startOf dir) (names dir) = .ok base ∧
      fs.node? base = some .directory ∧ place = base ++ [name] := by
  cases hfault : FileSystem.pathFault? path with
  | some e =>
    rw [FileSystem.locate_eq_error hfault] at hlocate
    simp at hlocate
  | none =>
    have hstart : fs.startOf path = fs.startOf dir := by
      rw [FileSystem.startOf, FileSystem.startOf, h.isAbsolute_eq]
    rw [FileSystem.locate_eq_walk hfault, h.names_eq, hstart, FileSystem.walk_append] at hlocate
    cases hwalk : fs.walk (fs.startOf dir) (names dir) with
    | error e => simp [hwalk, Except.bind] at hlocate
    | ok base =>
      rw [hwalk] at hlocate
      obtain ⟨hdir, hplace⟩ := FileSystem.of_walk_singleton hlocate
      refine ⟨base, rfl, hdir, ?_⟩
      rcases hplace with hplace | ⟨hhere, -⟩ | ⟨habove, -⟩
      · exact hplace
      · exact absurd hhere h.ne_here
      · exact absurd habove h.ne_above

end Path

/-! ### A write as a program -/

/-- The requests of a write from its staging on. -/
def stageProgram (path : String) (content : Bytes) : FileProgram (Except SystemError Unit) :=
  .ask (.write (stagingPath path) content) fun
    | .error e => .done (.error e)
    | .ok () => .ask (.rename (stagingPath path) path) .done

/-- The requests of a write. -/
def writeProgram (path : String) (content : Bytes) : FileProgram (Except SystemError Unit) :=
  .ask (.tryExists path) fun
    | .error e => .done (.error e)
    | .ok false => stageProgram path content
    | .ok true =>
      .ask (.copy path (backupPath path)) fun
        | .error e => .done (.error e)
        | .ok () => stageProgram path content

section

variable {path p : String} {content : Bytes}

/-- From the staging on, a write may touch the staging file and the target. -/
theorem touches_stageProgram_iff :
    (stageProgram path content).Touches p ↔ p = stagingPath path ∨ p = path := by
  constructor
  · rintro (h | ⟨e | ⟨⟨⟩⟩, h⟩)
    · exact .inl (List.mem_singleton.mp h)
    · cases h
    · rcases h with h | ⟨answer, ⟨⟩⟩
      simpa [FileRequest.paths] using h
  · intro h
    exact .later (.ok ()) (.here (by simpa [FileRequest.paths] using h))

/-- A write may touch each of its three paths, and no other. -/
theorem touches_writeProgram_iff :
    (writeProgram path content).Touches p ↔ p ∈ writePaths path := by
  have hpaths : p ∈ writePaths path ↔ p = path ∨ p = backupPath path ∨ p = stagingPath path := by
    simp [writePaths]
  rw [hpaths]
  constructor
  · rintro (h | ⟨e | b, h⟩)
    · exact .inl (List.mem_singleton.mp h)
    · cases h
    cases b with
    | false => exact (touches_stageProgram_iff.mp h).symm.imp_right .inr
    | true =>
      rcases h with h | ⟨e | ⟨⟨⟩⟩, h⟩
      · exact (List.mem_pair.mp h).imp_right .inl
      · cases h
      · exact (touches_stageProgram_iff.mp h).symm.imp_right .inr
  · rintro (rfl | rfl | rfl)
    · exact .here (List.mem_singleton_self _)
    · exact .later (.ok true) (.here (by simp [FileRequest.paths]))
    · exact .later (.ok false) (touches_stageProgram_iff.mpr (.inl rfl))

end

namespace WriteJob

variable {fs : FileSystem} {job : WriteJob}

/-- What the program does from the staging on is what the steps do. Opening the staging file and
filling it is one request. -/
theorem steps_eq_run_stageProgram (hphase : job.phase = .stage) (n : Nat) :
    steps (n + 3) fs job =
      (((stageProgram job.path job.content).run fs).1,
        { job with phase := .done ((stageProgram job.path job.content).run fs).2 }) := by
  rw [steps_succ, step_of_stage hphase, stageProgram, FileProgram.run, FileRequest.serve,
    FileSystem.write]
  cases fs.openTruncated (stagingPath job.path) 0o666 with
  | error e => exact steps_of_done rfl (n + 2)
  | ok opened =>
    obtain ⟨fs₁, place⟩ := opened
    change steps (n + 2) fs₁ { job with phase := .fill place } = _
    rw [steps_succ, step_of_fill rfl]
    change steps (n + 1) (fs₁.setContent place job.content) { job with phase := .publish } = _
    rw [steps_succ, step_of_publish rfl]
    simp only [bind, Except.bind, FileRequest.settle, FileProgram.run, FileRequest.serve]
    cases (fs₁.setContent place job.content).rename (stagingPath job.path) job.path with
    | error e => exact steps_of_done rfl n
    | ok fs₂ => exact steps_of_done rfl n

/-- What the program of a write does is what five steps do. -/
theorem steps_eq_run_writeProgram (fs : FileSystem) (path : String) (content : Bytes) :
    steps 5 fs { path, content } =
      (((writeProgram path content).run fs).1,
        { path, content, phase := .done ((writeProgram path content).run fs).2 }) := by
  rw [steps_succ, step_of_check rfl, writeProgram, FileProgram.run, FileRequest.serve]
  rcases fs.tryExists path with e | _ | _
  · exact steps_of_done rfl 4
  · exact @steps_eq_run_stageProgram fs { path, content, phase := .stage } rfl 1
  · change steps 4 fs { path, content, phase := .backup } = _
    rw [steps_succ, step_of_backup rfl]
    simp only [FileProgram.run, FileRequest.serve]
    cases fs.copy path (backupPath path) with
    | error e => exact steps_of_done rfl 3
    | ok fs₁ => exact @steps_eq_run_stageProgram fs₁ { path, content, phase := .stage } rfl 0

end WriteJob

/-- A write as a whole is the run of its program. -/
theorem writeUserConfig_eq_run {u : UserUpdate} {text : String} (hrender : u.render = .ok text)
    (fs : FileSystem) (path : String) :
    writeUserConfig fs path u =
      (((writeProgram path (Text.encode text)).run fs).1,
        ((writeProgram path (Text.encode text)).run fs).2.mapError (.io path)) := by
  rw [writeUserConfig, hrender]
  simp only [WriteJob.steps_eq_run_writeProgram, WriteJob.outcome?]
  cases ((writeProgram path (Text.encode text)).run fs).2 <;> rfl

/-! ### A call as a program -/

/-- What a call for new routes comes to when it is done with the files. -/
inductive FilesOutcome where
  /-- It replies. -/
  | replied (reply : Reply)
  /-- It goes on from a file that is written. -/
  | written (path : String)

namespace FilesOutcome

/-- What comes of a write. -/
def ofWrite (path : String) : Except UserConfigError Unit → FilesOutcome
  | .ok () => .written path
  | .error e => .replied (routesFailed ("failed to write user configuration: " ++ e.message))

/-- How a call goes on without the files. -/
def turn (registry : Registry) (now : Instant) (username : String) (reloadIfConnected : Bool) :
    FilesOutcome → Turn
  | .replied reply => .replied { registry } reply
  | .written path => afterWrite { registry } now username path reloadIfConnected

end FilesOutcome

/-- What a call for new routes does with files. -/
def ControlPlane.routesProgram (p : ControlPlane) (update : UserUpdate) :
    FileProgram FilesOutcome :=
  if update.username = "" then .done (.replied (.error usernameRequired))
  else if !SafeUsername update.username then
    .done (.replied (.error (.invalidArgument
      ("username " ++ Text.quote update.username ++
        " cannot be used as a configuration file name"))))
  else
    match p.userConfigDir with
    | none => .done (.replied (routesFailed "per-user configuration directory is not configured"))
    | some dir =>
      let path := Path.join dir update.username
      match update.render with
      | .error e => .done (.ofWrite path (.error (.refused e)))
      | .ok text =>
        (writeProgram path (Text.encode text)).map fun result =>
          .ofWrite path (result.mapError (.io path))

/-- The outcome of a call, with the files that it has left behind. -/
def CallOutcome.withFiles (out : CallOutcome) (files : FileSystem) : CallOutcome :=
  { out with state := { out.state with files } }

section

variable {username path : String} {reload : Bool} {now : Instant}

/-- What follows a command passes the files on without a look at them. -/
theorem afterReload_eq (username path : String) (result : CommandResult) (s : AgentState) :
    afterReload username path result s =
      ({ (afterReload username path result { registry := s.registry }).1 with files := s.files },
        (afterReload username path result { registry := s.registry }).2) := by
  cases result with
  | ok o => cases ho : o.success <;> simp [afterReload, ho, AgentState.forgetUser]
  | error e => rfl

/-- What follows the write of a file passes the files on without a look at them. -/
theorem perform_afterWrite (s : AgentState) (now : Instant) (username path : String)
    (reload : Bool) (executor : Executor) (deadline : Option Duration) :
    (afterWrite s now username path reload).perform executor deadline =
      ((afterWrite { registry := s.registry } now username path reload).perform executor
        deadline).withFiles s.files := by
  simp only [afterWrite]
  split
  · simp only [Turn.perform, CallOutcome.withFiles]
    cases Pending.boundBy (executor (disconnectLine username).command
        (disconnectLine username).args) deadline with
    | after t result =>
      simp only [Turn.resumeWith]
      rw [afterReload_eq username path result s]
    | never => rfl
    | panic payload => rfl
  · rfl

/-- **A call works on files by its program.** The files are what the program has left behind, and
all else goes on from the value of the program. -/
theorem ControlPlane.handle_updateUserRoutes (p : ControlPlane) (executor : Executor)
    (s : AgentState) (now : Instant) (deadline : Option Duration) (update : UserUpdate)
    (reload : Bool) :
    p.handle executor s now deadline (.updateUserRoutes update.username update.routes
        update.dnsServers reload update.directives) =
      ((((p.routesProgram update).run s.files).2.turn s.registry now update.username
        reload).perform executor deadline).withFiles ((p.routesProgram update).run s.files).1 := by
  change (p.updateUserRoutes s now update reload).perform executor deadline = _
  rw [ControlPlane.updateUserRoutes, ControlPlane.routesProgram]
  split_ifs
  · rfl
  · rfl
  cases p.userConfigDir with
  | none => rfl
  | some dir =>
    simp only [writeUserFile]
    cases hrender : update.render with
    | error e =>
      rw [writeUserConfig, hrender]
      rfl
    | ok text =>
      rw [writeUserConfig_eq_run hrender, FileProgram.run_map]
      cases ((writeProgram (Path.join dir update.username) (Text.encode text)).run
          s.files).2 with
      | error e => rfl
      | ok u => exact perform_afterWrite _ now update.username _ reload executor deadline

end

/-! ### What a call may touch -/

/-- The names that the files of a user's update have in their directory. -/
def fileNames (username : String) : List String :=
  [username, username ++ ".bak", username ++ ".tmp"]

/-- The three names of a user's files are file names. -/
theorem isFileName_of_mem_fileNames {username name : String}
    (husername : SafeUsername username = true) (hname : name ∈ fileNames username) :
    IsFileName name :=
  isFileName_of_mem_writePaths husername hname

/-- The paths of a write are the three names in the directory. -/
theorem writePaths_join {username : String} (husername : SafeUsername username = true)
    (dir : String) :
    writePaths (Path.join dir username) = (fileNames username).map (Path.join dir) := by
  have hname : ∀ name ∈ fileNames username, Path.IsName name :=
    fun name hmem => (isFileName_of_mem_fileNames husername hmem).toIsName
  have htarget : Path.IsName username := hname username (by simp [fileNames])
  have hbackup : Path.join dir username ++ ".bak" = Path.join dir (username ++ ".bak") :=
    join_append htarget (hname _ (by simp [fileNames]))
  have hstaging : Path.join dir username ++ ".tmp" = Path.join dir (username ++ ".tmp") :=
    join_append htarget (hname _ (by simp [fileNames]))
  simp [writePaths, fileNames, backupPath, stagingPath, hbackup, hstaging]

namespace ControlPlane

variable {p : ControlPlane} {dir path : String} {update : UserUpdate}

/-- A call that gets as far as the writer touches files only if the update can be rendered, and then
it may touch those of the three names. -/
theorem touches_routesProgram_iff (hdir : p.userConfigDir = some dir)
    (husername : SafeUsername update.username = true) :
    (p.routesProgram update).Touches path ↔
      (∃ text, update.render = .ok text) ∧
        ∃ name ∈ fileNames update.username, path = Path.join dir name := by
  have hne : update.username ≠ "" := (isFileName_of_safeUsername husername).1.ne_empty
  rw [routesProgram, if_neg hne, husername]
  simp only [hdir, Bool.not_true, Bool.false_eq_true, if_false]
  cases update.render with
  | error e => simp
  | ok text =>
    simp only [FileProgram.touches_map_iff, touches_writeProgram_iff, writePaths_join husername,
      List.mem_map, eq_comm (a := path), Except.ok.injEq, exists_eq', true_and]

/-- A call with a username that cannot name a file is done before it makes any request. -/
theorem routesProgram_of_not_safe (husername : SafeUsername update.username = false) :
    ∃ message, p.routesProgram update = .done (.replied (.error (.invalidArgument message))) := by
  rw [routesProgram, husername, if_pos (show (!false) = true from rfl)]
  split_ifs
  · exact ⟨_, rfl⟩
  · exact ⟨_, rfl⟩

/-- **Files stay in their directory.** A call for new routes works on files by its program. If the
username can name a file, the program may touch the file of that name in the directory, its backup
and its staging file, and nothing else: three entries of the directory, wherever that is. With any
other username the program makes no request at all, and the call is answered with the status for an
invalid argument and changes nothing. -/
theorem files_stay_in_directory (plane : ControlPlane) (dir : String) (update : UserUpdate) :
    let p := { plane with userConfigDir := some dir }
    let program := p.routesProgram update
    let call := fun reload => Request.updateUserRoutes update.username update.routes
      update.dnsServers reload update.directives
    (∀ executor s now deadline reload, p.handle executor s now deadline (call reload) =
      (((program.run s.files).2.turn s.registry now update.username reload).perform executor
        deadline).withFiles (program.run s.files).1) ∧
    (SafeUsername update.username = true →
      (∀ path, program.Touches path ↔ (∃ text, update.render = .ok text) ∧
        ∃ name ∈ fileNames update.username, path = Path.join dir name) ∧
      ∀ name ∈ fileNames update.username, Path.IsChild dir name (Path.join dir name) ∧
        ∀ (fs : FileSystem) (place : Location), fs.locate (Path.join dir name) = .ok place →
          ∃ base, fs.walk (fs.startOf dir) (Path.names dir) = .ok base ∧
            fs.node? base = some .directory ∧ place = base ++ [name]) ∧
    (SafeUsername update.username = false →
      (∀ path, ¬program.Touches path) ∧
      ∃ message, ∀ executor s now deadline reload,
        p.handle executor s now deadline (call reload) =
          { state := s, reply := .after ⟨0⟩ (.error (.invalidArgument message)) }) := by
  intro p program call
  have hcall : ∀ executor s now deadline reload, p.handle executor s now deadline (call reload) =
      (((program.run s.files).2.turn s.registry now update.username reload).perform executor
        deadline).withFiles (program.run s.files).1 :=
    fun executor s now deadline reload =>
      handle_updateUserRoutes p executor s now deadline update reload
  refine ⟨hcall, fun husername => ⟨fun path => ?_, fun name hname => ?_⟩, fun husername => ?_⟩
  · exact touches_routesProgram_iff rfl husername
  · have hchild := Path.isChild_join dir (isFileName_of_mem_fileNames husername hname)
    exact ⟨hchild, fun fs place hlocate => hchild.exists_base hlocate⟩
  · obtain ⟨message, hprogram⟩ : ∃ message,
        program = .done (.replied (.error (.invalidArgument message))) :=
      routesProgram_of_not_safe husername
    refine ⟨fun path => ?_, message, fun executor s now deadline reload => ?_⟩
    · rw [hprogram]
      exact FileProgram.not_touches_done _ path
    · rw [hcall, hprogram]
      rfl

end ControlPlane

end GatewayAgent
