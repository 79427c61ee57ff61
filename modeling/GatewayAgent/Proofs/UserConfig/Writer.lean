import GatewayAgent.Proofs.Host.FileSystem
import GatewayAgent.UserConfig.Writer

/-!
# The steps of a write

A write concerns three places: that of the file, that of its backup and that of its staging file.
Whatever is there, and however far the write comes, it leaves everything else alone and neither
makes nor removes a directory (`sameOutside_steps`).

If a file can be written at each of the three places (`Ready`), every step is known exactly
(`step_check`, `step_backup`, `steps_stage`, `step_publish`). The only thing that can then go wrong
is that the staging file is gone when it is to be published (`step_publish_of_none`).

A write that is left to itself is done after five steps (`exists_outcome_steps_five`).
-/

namespace GatewayAgent

/-! ### The three places -/

/-- The paths that a write at `path` uses. -/
def writePaths (path : String) : List String := [path, backupPath path, stagingPath path]

/-- The places that they lead to. -/
def writePlaces (fs : FileSystem) (path : String) : Set Location :=
  {place | ∃ p ∈ writePaths path, fs.locate p = .ok place}

/-- A file can be written at the target, at the backup and at the staging place of a path. -/
structure Ready (fs : FileSystem) (path : String) (target backup staging : Location) : Prop where
  target : fs.Writable path target
  backup : fs.Writable (backupPath path) backup
  staging : fs.Writable (stagingPath path) staging

namespace Ready

variable {fs fs' : FileSystem} {path : String} {target backup staging : Location}

/-- Files can still be written at the three places as long as the same directories are there. -/
theorem of_sameOutside {places : Set Location} (h : Ready fs path target backup staging)
    (hsame : fs.SameOutside places fs') : Ready fs' path target backup staging :=
  ⟨hsame.writable h.target, hsame.writable h.backup, hsame.writable h.staging⟩

/-- Files can still be written at the three places after a change that concerns no directory. -/
theorem of_edit {place : Location} {n : Option FileNode}
    (h : Ready fs path target backup staging) (hedit : fs.Edit place n fs')
    (hold : fs.node? place ≠ some .directory) (hnew : n ≠ some .directory) :
    Ready fs' path target backup staging :=
  have hsame : fs.SameOutside {place} fs' := .of_edit hedit rfl hold hnew
  h.of_sameOutside hsame

/-- The target, the backup and the staging file are at three different places. -/
theorem ne (h : Ready fs path target backup staging) :
    target ≠ staging ∧ target ≠ backup ∧ backup ≠ staging := by
  have hne : path ≠ "" := by
    rintro rfl
    have hlocate := h.target.locate_eq
    rw [FileSystem.locate_eq_error (e := .notFound) (by decide)] at hlocate
    simp at hlocate
  obtain ⟨stem, name, rfl, hstem, hname⟩ := Path.exists_stem_append hne h.target.no_slash
  have hbackup : Path.IsEntry (name ++ ".bak") := hname.isEntry_append (by decide) (by decide)
  have hstaging : Path.IsEntry (name ++ ".tmp") := hname.isEntry_append (by decide) (by decide)
  have hlocateBackup : fs.locate (stem ++ (name ++ ".bak")) = .ok backup := by
    rw [← String.append_assoc]
    exact h.backup.locate_eq
  have hlocateStaging : fs.locate (stem ++ (name ++ ".tmp")) = .ok staging := by
    rw [← String.append_assoc]
    exact h.staging.locate_eq
  -- A suffix makes the name longer, and the two suffixes differ.
  have hsuffix : ∀ suffix : String, suffix ≠ "" → name ≠ name ++ suffix := by
    intro suffix hsuffix heq
    have := congrArg (fun s => s.toList.length) heq
    simp [hsuffix] at this
  refine ⟨?_, ?_, ?_⟩
  · exact FileSystem.locate_ne hstem hname hstaging (hsuffix ".tmp" (by decide))
      h.target.locate_eq hlocateStaging
  · exact FileSystem.locate_ne hstem hname hbackup (hsuffix ".bak" (by decide))
      h.target.locate_eq hlocateBackup
  · refine FileSystem.locate_ne hstem hbackup.toIsName hstaging (fun heq => ?_) hlocateBackup
      hlocateStaging
    have := congrArg String.toList heq
    simp at this

end Ready

/-! ### Phases -/

namespace WritePhase

/-- How many steps a write may still take. -/
def remaining : WritePhase → Nat
  | .check => 5
  | .backup => 4
  | .stage => 3
  | .fill _ => 2
  | .publish => 1
  | .done _ => 0

theorem remaining_le_five (phase : WritePhase) : phase.remaining ≤ 5 := by
  cases phase <;> simp [remaining]

/-- Three steps are left only before the staging. -/
theorem remaining_eq_three_iff {phase : WritePhase} : phase.remaining = 3 ↔ phase = .stage := by
  cases phase <;> simp [remaining]

/-- No step is left exactly when the write is done. -/
theorem remaining_eq_zero_iff {phase : WritePhase} :
    phase.remaining = 0 ↔ ∃ outcome, phase = .done outcome := by
  cases phase <;> simp [remaining]

end WritePhase

namespace WriteJob

variable {fs fs₀ : FileSystem} {job : WriteJob}

/-! ### The step of each phase -/

theorem step_of_check (h : job.phase = .check) :
    step fs job =
      match fs.tryExists job.path with
      | .ok true => (fs, { job with phase := .backup })
      | .ok false => (fs, { job with phase := .stage })
      | .error e => (fs, { job with phase := .done (.error e) }) := by
  obtain ⟨path, content, phase⟩ := job
  obtain rfl : phase = .check := h
  rfl

theorem step_of_backup (h : job.phase = .backup) :
    step fs job = job.proceed fs .stage (fs.copy job.path (backupPath job.path)) := by
  rw [step, h]

theorem step_of_stage (h : job.phase = .stage) :
    step fs job =
      match fs.openTruncated (stagingPath job.path) 0o666 with
      | .ok (fs', place) => (fs', { job with phase := .fill place })
      | .error e => (fs, { job with phase := .done (.error e) }) := by
  obtain ⟨path, content, phase⟩ := job
  obtain rfl : phase = .stage := h
  rfl

theorem step_of_fill {place : Location} (h : job.phase = .fill place) :
    step fs job = (fs.setContent place job.content, { job with phase := .publish }) := by
  rw [step, h]

theorem step_of_publish (h : job.phase = .publish) :
    step fs job =
      job.proceed fs (.done (.ok ())) (fs.rename (stagingPath job.path) job.path) := by
  rw [step, h]

theorem step_of_done {outcome : Except SystemError Unit} (h : job.phase = .done outcome) :
    step fs job = (fs, job) := by
  rw [step, h]

theorem steps_succ (n : Nat) (fs : FileSystem) (job : WriteJob) :
    steps (n + 1) fs job = steps n (step fs job).1 (step fs job).2 := rfl

/-- More steps go on from where the first ones have come. -/
theorem steps_add (m n : Nat) (fs : FileSystem) (job : WriteJob) :
    steps (m + n) fs job = steps n (steps m fs job).1 (steps m fs job).2 := by
  induction m generalizing fs job with
  | zero => rw [Nat.zero_add, steps]
  | succ m ih => rw [Nat.succ_add, steps_succ, ih, steps_succ]

/-- A write that is done takes no more steps. -/
theorem steps_of_done {outcome : Except SystemError Unit} (h : job.phase = .done outcome)
    (n : Nat) : steps n fs job = (fs, job) := by
  induction n with
  | zero => rfl
  | succ n ih => rw [steps_succ, step_of_done h, ih]

/-- Once a write is done it does not matter how many steps it has been given. -/
theorem steps_eq_of_done {m n : Nat} {outcome outcome' : Except SystemError Unit}
    (hm : (steps m fs job).2.phase = .done outcome)
    (hn : (steps n fs job).2.phase = .done outcome') : steps m fs job = steps n fs job := by
  rcases Nat.le_total m n with hle | hle
  · obtain ⟨k, rfl⟩ := Nat.exists_eq_add_of_le hle
    rw [steps_add, steps_of_done hm]
  · obtain ⟨k, rfl⟩ := Nat.exists_eq_add_of_le hle
    rw [steps_add, steps_of_done hn]

/-! ### The end of a write -/

/-- A step brings a write that is not done closer to its end. -/
theorem remaining_step_le (fs : FileSystem) (job : WriteJob) :
    (step fs job).2.phase.remaining ≤ job.phase.remaining - 1 := by
  cases hphase : job.phase with
  | check =>
    rw [step_of_check hphase]
    split <;> simp [WritePhase.remaining]
  | backup =>
    rw [step_of_backup hphase]
    cases fs.copy job.path (backupPath job.path) <;> simp [proceed, WritePhase.remaining]
  | stage =>
    rw [step_of_stage hphase]
    split <;> simp [WritePhase.remaining]
  | fill place =>
    rw [step_of_fill hphase]
    simp [WritePhase.remaining]
  | publish =>
    rw [step_of_publish hphase]
    cases fs.rename (stagingPath job.path) job.path <;> simp [proceed, WritePhase.remaining]
  | done outcome =>
    rw [step_of_done hphase, hphase]
    simp [WritePhase.remaining]

/-- Every step that is taken is one fewer to take. -/
theorem remaining_steps_le (n : Nat) (fs : FileSystem) (job : WriteJob) :
    (steps n fs job).2.phase.remaining ≤ job.phase.remaining - n := by
  induction n generalizing fs job with
  | zero => exact le_rfl
  | succ n ih =>
    have hrest := ih (step fs job).1 (step fs job).2
    have hfirst := remaining_step_le fs job
    rw [steps_succ]
    omega

/-- Every write is done after five steps, from wherever it starts. -/
theorem exists_outcome_steps_five (fs : FileSystem) (job : WriteJob) :
    ∃ outcome, (steps 5 fs job).2.phase = .done outcome := by
  have hle := remaining_steps_le 5 fs job
  rw [Nat.sub_eq_zero_of_le job.phase.remaining_le_five, Nat.le_zero] at hle
  exact WritePhase.remaining_eq_zero_iff.mp hle

/-! ### Steps that nothing is in the way of -/

section Ready

variable {target backup staging : Location} {content : Bytes} {mode : Nat}

/-- The first step finds out whether there is a file to keep. -/
theorem step_check (h : Ready fs job.path target backup staging) (hphase : job.phase = .check) :
    step fs job =
      (fs, { job with phase := if (fs.node? target).isSome then .backup else .stage }) := by
  rw [step_of_check hphase,
    FileSystem.tryExists_of_locate h.target.locate_eq h.target.no_slash]
  cases (fs.node? target).isSome <;> rfl

/-- The second step keeps the file, with its mode, as the backup. -/
theorem step_backup (h : Ready fs job.path target backup staging) (hphase : job.phase = .backup)
    (htarget : fs.node? target = some (.file content mode)) :
    ∃ fs', step fs job = (fs', { job with phase := .stage }) ∧
      fs.Edit backup (some (.file content mode)) fs' := by
  have hfind := FileSystem.find_of_locate h.target.locate_eq h.target.no_slash htarget
  obtain ⟨fs', hcopy, hedit⟩ := FileSystem.copy_of_writable hfind h.backup
  refine ⟨fs', ?_, hedit⟩
  rw [step_of_backup hphase, hcopy]
  rfl

/-- A staging file that can be written is opened, and is empty then. -/
theorem step_stage (h : fs.Writable (stagingPath job.path) staging) (hphase : job.phase = .stage) :
    ∃ fs' kept, step fs job = (fs', { job with phase := .fill staging }) ∧
      fs.Edit staging (some (.file [] kept)) fs' := by
  obtain ⟨fs', hopen, hedit⟩ := FileSystem.openTruncated_of_writable h 0o666
  exact ⟨fs', _, by rw [step_of_stage hphase, hopen], hedit⟩

/-- Two steps open the staging file and fill it. -/
theorem steps_stage (h : fs.Writable (stagingPath job.path) staging) (hphase : job.phase = .stage)
    (n : Nat) :
    ∃ fs' kept, steps (n + 2) fs job = steps n fs' { job with phase := .publish } ∧
      fs.Edit staging (some (.file job.content kept)) fs' := by
  obtain ⟨fs₁, kept, hstage, hedit⟩ := step_stage h hphase
  refine ⟨_, _, ?_, hedit.trans (FileSystem.edit_setContent hedit.node?_self job.content)⟩
  rw [steps_succ, hstage, steps_succ, step_of_fill rfl]

/-- The last step takes the staging file away and puts it in place of the target. -/
theorem step_publish (h : Ready fs job.path target backup staging)
    (hphase : job.phase = .publish) (hstaging : fs.node? staging = some (.file content mode)) :
    ∃ fs₁ fs', step fs job = (fs', { job with phase := .done (.ok ()) }) ∧
      fs.Edit staging none fs₁ ∧ fs₁.Edit target (some (.file content mode)) fs' := by
  have hfind := FileSystem.find_of_locate h.staging.locate_eq h.staging.no_slash hstaging
  obtain ⟨fs₁, fs', hrename, hdrop, hput⟩ :=
    FileSystem.rename_of_file hfind h.target.locate_eq h.target.not_directory
  refine ⟨fs₁, fs', ?_, hdrop, hput⟩
  rw [step_of_publish hphase, hrename]
  rfl

/-- A staging file that is gone cannot be published. -/
theorem step_publish_of_none (h : Ready fs job.path target backup staging)
    (hphase : job.phase = .publish) (hstaging : fs.node? staging = none) :
    step fs job = (fs, { job with phase := .done (.error .notFound) }) := by
  rw [step_of_publish hphase, FileSystem.rename,
    FileSystem.find_of_node?_eq_none h.staging.locate_eq hstaging]
  rfl

/-- A write that has come to its staging and goes on alone publishes its text. -/
theorem steps_of_stage (h : Ready fs job.path target backup staging)
    (hphase : job.phase = .stage) (n : Nat) :
    ∃ fs' kept, steps (n + 3) fs job = (fs', { job with phase := .done (.ok ()) }) ∧
      fs'.node? target = some (.file job.content kept) ∧
      fs'.node? backup = fs.node? backup ∧ fs'.node? staging = none := by
  obtain ⟨hts, htb, hbs⟩ := h.ne
  obtain ⟨fs₁, kept, hstage, hstaged⟩ := steps_stage h.staging hphase (n + 1)
  have hready : Ready fs₁ job.path target backup staging :=
    h.of_edit hstaged h.staging.not_directory (by simp)
  obtain ⟨fs₂, fs₃, hpublish, hdrop, hput⟩ :=
    @step_publish _ { job with phase := .publish } _ _ _ _ _ hready rfl hstaged.node?_self
  refine ⟨fs₃, kept, ?_, hput.node?_self, ?_, ?_⟩
  · rw [hstage, steps_succ, hpublish, steps_of_done rfl n]
  · rw [hput.node?_of_ne htb.symm, hdrop.node?_of_ne hbs, hstaged.node?_of_ne hbs]
  · rw [hput.node?_of_ne hts.symm, hdrop.node?_self]

/-- A write that nothing is in the way of publishes its text, keeps what was there before as the
backup, and leaves no staging file behind. -/
theorem steps_five {path : String} (h : Ready fs path target backup staging) (content : Bytes) :
    ∃ fs' kept,
      steps 5 fs { path, content } = (fs', { path, content, phase := .done (.ok ()) }) ∧
      fs'.node? target = some (.file content kept) ∧
      fs'.node? backup = (fs.node? target).or (fs.node? backup) ∧ fs'.node? staging = none := by
  rw [steps_succ, step_check h rfl]
  cases hnode : fs.node? target with
  | none => exact steps_of_stage h rfl 1
  | some n =>
    cases n with
    | directory => exact absurd hnode h.target.not_directory
    | file old mode =>
      obtain ⟨fs₁, hbackup, hedit⟩ :=
        @step_backup _ { path, content, phase := .backup } _ _ _ _ _ h rfl hnode
      have hready : Ready fs₁ path target backup staging :=
        h.of_edit hedit h.backup.not_directory (by simp)
      obtain ⟨fs', kept, hsteps, htarget, hkept, hstaging⟩ :=
        @steps_of_stage _ { path, content, phase := .stage } _ _ _ hready rfl 0
      refine ⟨fs', kept, ?_, htarget, hkept.trans hedit.node?_self, hstaging⟩
      rw [← hsteps]
      change steps 4 fs { path, content, phase := .backup } = _
      rw [steps_succ, hbackup]

end Ready

/-! ### What a write leaves alone -/

/-- A write to `path` that has come this far from `fs₀` has changed nothing but its three places,
and if it is about to fill its staging file or to publish it, the file is there. -/
structure Confined (fs₀ : FileSystem) (path : String) (fs : FileSystem) (job : WriteJob) :
    Prop where
  path_eq : job.path = path
  same : fs₀.SameOutside (writePlaces fs₀ path) fs
  opened : ∀ place, job.phase = .fill place → ∃ content mode,
    fs.locate (stagingPath path) = .ok place ∧ fs.node? place = some (.file content mode)
  staged : job.phase = .publish → ∃ place content mode,
    fs.locate (stagingPath path) = .ok place ∧ fs.node? place = some (.file content mode)

namespace Confined

variable {path : String} {place : Location}

/-- A step that changes no file and leads to no phase with a staging file is confined. -/
theorem of_unchanged (h : Confined fs₀ path fs job) {phase : WritePhase}
    (hfill : ∀ place, phase ≠ .fill place) (hpublish : phase ≠ .publish) :
    Confined fs₀ path fs { job with phase } :=
  ⟨h.path_eq, h.same, fun place heq => absurd heq (hfill place), fun heq => absurd heq hpublish⟩

/-- The places that the three paths lead to stay the same on the way. -/
theorem mem_writePlaces (h : Confined fs₀ path fs job) {p : String} (hp : p ∈ writePaths path)
    (hlocate : fs.locate p = .ok place) : place ∈ writePlaces fs₀ path :=
  ⟨p, hp, h.same.symm.locate_eq_ok hlocate⟩

/-- To keep the file changes the backup only. -/
theorem backup (h : Confined fs₀ path fs job) (hphase : job.phase = .backup) :
    Confined fs₀ path (step fs job).1 (step fs job).2 := by
  rw [step_of_backup hphase, h.path_eq]
  cases hcopy : fs.copy path (backupPath path) with
  | error e => exact h.of_unchanged (by simp) (by simp)
  | ok fs' =>
    obtain ⟨p, content, mode, place, -, hplace, hedit⟩ := FileSystem.of_copy hcopy
    have hmem := h.mem_writePlaces (by simp [writePaths]) hplace.locate_eq
    exact ⟨h.path_eq, h.same.trans (.of_edit hedit hmem hplace.not_directory (by simp)),
      by simp [proceed], by simp [proceed]⟩

/-- To open the staging file changes that file only. -/
theorem stage (h : Confined fs₀ path fs job) (hphase : job.phase = .stage) :
    Confined fs₀ path (step fs job).1 (step fs job).2 := by
  rw [step_of_stage hphase]
  cases hopen : fs.openTruncated (stagingPath job.path) 0o666 with
  | error e => exact h.of_unchanged (by simp) (by simp)
  | ok opened =>
    obtain ⟨fs', place⟩ := opened
    rw [h.path_eq] at hopen
    have hplace := FileSystem.writable_of_openTruncated hopen
    have hedit := FileSystem.edit_of_openTruncated hopen
    have hsame : fs.SameOutside (writePlaces fs₀ path) fs' :=
      .of_edit hedit (h.mem_writePlaces (by simp [writePaths]) hplace.locate_eq)
        hplace.not_directory (by simp)
    refine ⟨h.path_eq, h.same.trans hsame, ?_, by simp⟩
    rintro place' ⟨⟩
    exact ⟨_, _, hsame.locate_eq_ok hplace.locate_eq, hedit.node?_self⟩

/-- To fill the staging file changes that file only. -/
theorem fill (h : Confined fs₀ path fs job) (hphase : job.phase = .fill place) :
    Confined fs₀ path (step fs job).1 (step fs job).2 := by
  obtain ⟨content, mode, hlocate, hnode⟩ := h.opened place hphase
  have hedit := FileSystem.edit_setContent hnode job.content
  have hsame : fs.SameOutside (writePlaces fs₀ path) (fs.setContent place job.content) :=
    .of_edit hedit (h.mem_writePlaces (by simp [writePaths]) hlocate) (by simp [hnode]) (by simp)
  rw [step_of_fill hphase]
  exact ⟨h.path_eq, h.same.trans hsame, by simp,
    fun _ => ⟨place, _, _, hsame.locate_eq_ok hlocate, hedit.node?_self⟩⟩

/-- To publish changes the staging file and the target only. -/
theorem publish (h : Confined fs₀ path fs job) (hphase : job.phase = .publish) :
    Confined fs₀ path (step fs job).1 (step fs job).2 := by
  rw [step_of_publish hphase, h.path_eq]
  cases hrename : fs.rename (stagingPath path) path with
  | error e => exact h.of_unchanged (by simp) (by simp)
  | ok fs' =>
    -- What is published is the staging file, and what it replaces is no directory.
    obtain ⟨old, n, new, hfind, hlocate, hnew⟩ := FileSystem.of_rename hrename
    obtain ⟨place, content, mode, hstaging, hnode⟩ := h.staged hphase
    obtain ⟨hold, hn⟩ := FileSystem.of_find_eq_ok hfind
    obtain rfl : old = place := Except.ok.inj (hold.symm.trans hstaging)
    obtain rfl : n = .file content mode := Option.some.inj (hn.symm.trans hnode)
    obtain ⟨fs₁, fs'', hrename', hdrop, hput⟩ := FileSystem.rename_of_file hfind hlocate hnew
    obtain rfl : fs' = fs'' := Except.ok.inj (hrename.symm.trans hrename')
    have hdropped : fs.SameOutside (writePlaces fs₀ path) fs₁ :=
      .of_edit hdrop (h.mem_writePlaces (by simp [writePaths]) hold) (by simp [hnode]) (by simp)
    have hput : fs₁.SameOutside (writePlaces fs₀ path) fs' :=
      .of_edit hput (h.mem_writePlaces (by simp [writePaths]) hlocate)
        (by rwa [Ne, hdropped.directory_iff]) (by simp)
    exact ⟨h.path_eq, (h.same.trans hdropped).trans hput, by simp [proceed], by simp [proceed]⟩

/-- Every step is confined to the three places. -/
theorem step (h : Confined fs₀ path fs job) :
    Confined fs₀ path (step fs job).1 (step fs job).2 := by
  cases hphase : job.phase with
  | check =>
    rw [step_of_check hphase]
    split
    · exact h.of_unchanged (by simp) (by simp)
    · exact h.of_unchanged (by simp) (by simp)
    · exact h.of_unchanged (by simp) (by simp)
  | backup => exact h.backup hphase
  | stage => exact h.stage hphase
  | fill place => exact h.fill hphase
  | publish => exact h.publish hphase
  | done outcome =>
    rw [step_of_done hphase]
    exact h

/-- Any number of steps is confined to the three places. -/
theorem steps (h : Confined fs₀ path fs job) (n : Nat) :
    Confined fs₀ path (steps n fs job).1 (steps n fs job).2 := by
  induction n generalizing fs job with
  | zero => exact h
  | succ n ih => exact ih h.step

end Confined

/-- However far a write comes, it leaves all places alone but its three. -/
theorem sameOutside_steps (fs : FileSystem) (path : String) (content : Bytes) (n : Nat) :
    fs.SameOutside (writePlaces fs path) (steps n fs { path, content }).1 :=
  have hstart : Confined fs path fs { path, content } := ⟨rfl, .refl _ fs, by simp, by simp⟩
  (hstart.steps n).same

end WriteJob

/-- A write as a whole does what its steps do. -/
theorem writeUserConfig_of_ready {fs : FileSystem} {path text : String} {u : UserUpdate}
    {target backup staging : Location} (h : Ready fs path target backup staging)
    (hrender : u.render = .ok text) :
    ∃ fs' kept, writeUserConfig fs path u = (fs', .ok ()) ∧
      fs'.node? target = some (.file (Text.encode text) kept) ∧
      fs'.node? backup = (fs.node? target).or (fs.node? backup) ∧ fs'.node? staging = none := by
  obtain ⟨fs', kept, hsteps, hnodes⟩ := WriteJob.steps_five h (Text.encode text)
  refine ⟨fs', kept, ?_, hnodes⟩
  rw [writeUserConfig, hrender]
  simp only [hsteps, WriteJob.outcome?]

/-- Whatever comes of a write, it leaves all places alone but its three. -/
theorem sameOutside_writeUserConfig (fs : FileSystem) (path : String) (u : UserUpdate) :
    fs.SameOutside (writePlaces fs path) (writeUserConfig fs path u).1 := by
  rw [writeUserConfig]
  cases u.render with
  | error e => exact .refl _ fs
  | ok text =>
    have h := WriteJob.sameOutside_steps fs path (Text.encode text) 5
    dsimp only
    split <;> exact h

end GatewayAgent
