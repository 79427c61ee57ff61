import GatewayAgent.Proofs.UserConfig.Writer

/-!
# A write replaces its file at once

A write may end after any of its steps, and any of them may fail: a directory is in the way of the
file, of its backup or of its staging file, or the directory of the three is missing. Whatever is
there, a reader of the file finds what was there before or the whole of the new text, and what was
there before if the write fails (`target_replaced_at_once`).

`Underway` says for each phase what a write has done when it has come so far. Every step leads from
one phase's condition to the next one's (`Underway.step`).
-/

namespace GatewayAgent

variable {fs fs' : FileSystem} {path suffix suffix' : String} {place : Location}

/-! ### A path and what stands beside it -/

/-- The names that a path can be given at its end. -/
structure IsSuffix (suffix : String) : Prop where
  no_slash : '/' ∉ suffix.toList
  long : 3 ≤ suffix.toList.length

theorem isSuffix_bak : IsSuffix ".bak" := ⟨by decide, by decide⟩

theorem isSuffix_tmp : IsSuffix ".tmp" := ⟨by decide, by decide⟩

/-- What is beside a path leaves alone what the path leads to. -/
theorem find_eq_of_beside (hsuffix : IsSuffix suffix) (h : fs.SameOutside {place} fs')
    (hlocate : fs.locate (path ++ suffix) = .ok place) : fs'.find path = fs.find path := by
  obtain ⟨stem, rest, rfl, hstem, hrest⟩ := Path.exists_stem_append_rest path
  have hentry := Path.isEntry_append hrest hsuffix.no_slash hsuffix.long
  rw [String.append_assoc] at hlocate
  by_cases hempty : rest = ""
  · -- The path is a stem, and what is beside it is below it.
    subst hempty
    rw [String.append_empty]
    obtain ⟨base, hbase, hwalk⟩ :=
      FileSystem.exists_base_of_locate hstem hentry.toIsName hlocate
    have hplace : base ∉ ({place} : Set Location) := by
      rintro rfl
      rcases (FileSystem.of_walk_singleton hwalk).2 with heq | ⟨heq, -⟩ | ⟨heq, -⟩
      · simpa using congrArg List.length heq
      · exact hentry.ne_here heq
      · exact hentry.ne_above heq
    cases hfault : FileSystem.pathFault? stem with
    | some e => rw [FileSystem.find_eq_error hfault, FileSystem.find_eq_error hfault]
    | none => exact h.find_eq ((FileSystem.locate_eq_walk hfault).trans hbase) hplace
  · have hname : Path.IsName rest := ⟨hempty, hrest⟩
    refine h.find_sibling_eq hstem hentry.toIsName hname hlocate fun q hq => ?_
    have hne : rest ≠ rest ++ suffix := fun heq => by
      have := congrArg (fun s => s.toList.length) heq
      have := hsuffix.long
      simp only [String.toList_append, List.length_append] at *
      omega
    exact FileSystem.locate_ne hstem hname hentry hne hq hlocate

/-- What is beside a path under one suffix leaves alone what is there under another. -/
theorem find_append_eq_of_beside (hsuffix : IsSuffix suffix) (hsuffix' : IsSuffix suffix')
    (hne : suffix ≠ suffix') (h : fs.SameOutside {place} fs')
    (hlocate : fs.locate (path ++ suffix) = .ok place) :
    fs'.find (path ++ suffix') = fs.find (path ++ suffix') := by
  obtain ⟨stem, rest, rfl, hstem, hrest⟩ := Path.exists_stem_append_rest path
  have hentry := Path.isEntry_append hrest hsuffix.no_slash hsuffix.long
  have hentry' := Path.isEntry_append hrest hsuffix'.no_slash hsuffix'.long
  rw [String.append_assoc] at hlocate ⊢
  refine h.find_sibling_eq hstem hentry.toIsName hentry'.toIsName hlocate fun q hq => ?_
  refine FileSystem.locate_ne hstem hentry'.toIsName hentry (fun heq => hne ?_) hq hlocate
  simpa using heq.symm

section Target

variable {target : Location}

/-- A path with something beside it either leads to a directory or ends with a name. -/
theorem exists_name_of_beside (hsuffix : IsSuffix suffix)
    (hbeside : fs.locate (path ++ suffix) = .ok place) (hlocate : fs.locate path = .ok target)
    (hnode : fs.node? target ≠ some .directory) :
    ∃ stem name, path = stem ++ name ∧ Path.IsStem stem ∧ Path.IsName name := by
  obtain ⟨stem, rest, rfl, hstem, hrest⟩ := Path.exists_stem_append_rest path
  refine ⟨stem, rest, rfl, hstem, ?_, hrest⟩
  rintro rfl
  -- Below a stem there is something only if the stem leads to a directory.
  have hentry := Path.isEntry_append hrest hsuffix.no_slash hsuffix.long
  rw [String.append_assoc] at hbeside
  obtain ⟨base, hbase, hwalk⟩ := FileSystem.exists_base_of_locate hstem hentry.toIsName hbeside
  rw [String.append_empty] at hlocate
  cases hfault : FileSystem.pathFault? stem with
  | some e =>
    rw [FileSystem.locate_eq_error hfault] at hlocate
    simp at hlocate
  | none =>
    rw [FileSystem.locate_eq_walk hfault, hbase] at hlocate
    obtain rfl : base = target := Except.ok.inj hlocate
    exact hnode (FileSystem.of_walk_singleton hwalk).1

/-- Where something stands beside a path that leads to no directory, a file can be written at the
path, and it is another place. -/
theorem writable_of_beside (hsuffix : IsSuffix suffix)
    (hbeside : fs.locate (path ++ suffix) = .ok place) (hlocate : fs.locate path = .ok target)
    (hnode : fs.node? target ≠ some .directory) : fs.Writable path target ∧ target ≠ place := by
  obtain ⟨stem, name, rfl, hstem, hname⟩ :=
    exists_name_of_beside hsuffix hbeside hlocate hnode
  have hentry := Path.isEntry_append hname.no_slash hsuffix.no_slash hsuffix.long
  rw [String.append_assoc] at hbeside
  refine ⟨⟨hlocate, Path.endsWithSlash_append hname, hnode⟩, ?_⟩
  refine FileSystem.locate_ne hstem hname hentry (fun heq => ?_) hlocate hbeside
  have hlength := congrArg (fun s => s.toList.length) heq
  have hlong := hsuffix.long
  simp only [String.toList_append, List.length_append] at hlength
  omega

/-- What the path leads to leaves alone what is beside it. -/
theorem find_append_eq_of_target (hsuffix : IsSuffix suffix) (h : fs.SameOutside {target} fs')
    (hpath : fs.Writable path target) : fs'.find (path ++ suffix) = fs.find (path ++ suffix) := by
  have hempty : path ≠ "" := by
    rintro rfl
    have hlocate := hpath.locate_eq
    rw [FileSystem.locate_eq_error (e := .notFound) (by decide)] at hlocate
    simp at hlocate
  obtain ⟨stem, name, rfl, hstem, hname⟩ := Path.exists_stem_append hempty hpath.no_slash
  have hentry := Path.isEntry_append hname.no_slash hsuffix.no_slash hsuffix.long
  have hlocate := hpath.locate_eq
  rw [String.append_assoc]
  refine h.find_sibling_eq hstem hname hentry.toIsName hlocate fun q hq heq => ?_
  obtain rfl : q = target := heq
  have hbeside : fs.locate (stem ++ name ++ suffix) = .ok q := by rwa [String.append_assoc]
  exact (writable_of_beside hsuffix hbeside hlocate hpath.not_directory).2 rfl

end Target

/-! ### What a write has done -/

/-- What was there before is kept as the backup. Where nothing was, the backup is as it was. -/
inductive BackedUp (fs₀ : FileSystem) (path : String) (fs : FileSystem) : Prop
  | nothing (hold : fs₀.find path = .error .notFound)
      (hkept : fs.find (backupPath path) = fs₀.find (backupPath path))
  | file {place kept : Location} {content : Bytes} {mode : Nat}
      (hold : fs₀.find path = .ok (place, .file content mode))
      (hkept : fs.find (backupPath path) = .ok (kept, .file content mode))

/-- The file has the new content, what it had before is the backup, and there is no staging file. -/
structure Published (fs₀ : FileSystem) (path : String) (content : Bytes) (fs : FileSystem) :
    Prop where
  target : fs.read path = .ok content
  backup : BackedUp fs₀ path fs
  staging : fs.find (stagingPath path) = .error .notFound

/-- Nothing is in the way of a write: it can write the file and the staging file, and if there is
something to keep, the backup. -/
structure Unobstructed (fs : FileSystem) (path : String) : Prop where
  target : ∃ place, fs.Writable path place
  backup : fs.find path ≠ .error .notFound → ∃ place, fs.Writable (backupPath path) place
  staging : ∃ place, fs.Writable (stagingPath path) place

/-- What is kept does not depend on anything but the backup. -/
theorem BackedUp.of_find_eq {fs₀ : FileSystem} (h : BackedUp fs₀ path fs)
    (hkept : fs'.find (backupPath path) = fs.find (backupPath path)) : BackedUp fs₀ path fs' := by
  cases h with
  | nothing hold hbackup => exact .nothing hold (hkept.trans hbackup)
  | file hold hbackup => exact .file hold (hkept.trans hbackup)

/-- If it can be told whether something is at a path, that is told. -/
theorem find_eq_notFound_iff {b : Bool} (h : fs.tryExists path = .ok b) :
    fs.find path = .error .notFound ↔ b = false := by
  rw [FileSystem.tryExists] at h
  cases hfind : fs.find path with
  | ok found =>
    rw [hfind] at h
    obtain rfl : true = b := Except.ok.inj h
    simp
  | error e =>
    rw [hfind] at h
    simp only at h
    split_ifs at h with he
    obtain rfl : false = b := Except.ok.inj h
    simp [he]

/-! ### The steps of a write -/

namespace WriteJob

variable {fs₀ : FileSystem} {content : Bytes} {job : WriteJob}

/-- What a write from `fs₀` has done when it has come to a phase. -/
def Reached (fs₀ : FileSystem) (path : String) (content : Bytes) (fs : FileSystem) :
    WritePhase → Prop
  | .check => fs = fs₀
  | .backup => fs = fs₀
  | .stage => fs.find path = fs₀.find path ∧ BackedUp fs₀ path fs
  | .fill place => fs.find path = fs₀.find path ∧ BackedUp fs₀ path fs ∧
      ∃ mode, fs.find (stagingPath path) = .ok (place, .file [] mode)
  | .publish => fs.find path = fs₀.find path ∧ BackedUp fs₀ path fs ∧
      ∃ place mode, fs.find (stagingPath path) = .ok (place, .file content mode)
  | .done (.error _) => fs.find path = fs₀.find path
  | .done (.ok _) => Published fs₀ path content fs ∧ ∃ place, fs.Writable (stagingPath path) place

/-- A write of a content to a path is on its way from `fs₀`. -/
structure Underway (fs₀ : FileSystem) (path : String) (content : Bytes) (fs : FileSystem)
    (job : WriteJob) : Prop where
  path_eq : job.path = path
  content_eq : job.content = content
  reached : Reached fs₀ path content fs job.phase

namespace Underway

/-- The check leads to the condition of the phase that it goes on to. -/
theorem check (h : Underway fs₀ path content fs job) (hphase : job.phase = .check) :
    Underway fs₀ path content (step fs job).1 (step fs job).2 := by
  obtain ⟨rfl, hcontent, hreached⟩ := h
  rw [hphase] at hreached
  obtain rfl : fs = fs₀ := hreached
  rw [step_of_check hphase]
  split
  · exact ⟨rfl, hcontent, rfl⟩
  · next hexists =>
    exact ⟨rfl, hcontent, rfl, .nothing ((find_eq_notFound_iff hexists).mpr rfl) rfl⟩
  · exact ⟨rfl, hcontent, rfl⟩

/-- The file is kept, and is itself as it was. -/
theorem backup (h : Underway fs₀ path content fs job) (hphase : job.phase = .backup) :
    Underway fs₀ path content (step fs job).1 (step fs job).2 := by
  obtain ⟨hpath, hcontent, hreached⟩ := h
  rw [hphase] at hreached
  obtain rfl : fs = fs₀ := hreached
  rw [step_of_backup hphase, hpath]
  cases hcopy : fs.copy path (backupPath path) with
  | error e => exact ⟨hpath, hcontent, rfl⟩
  | ok fs' =>
    obtain ⟨p, old, mode, place, hfind, hplace, hedit⟩ := FileSystem.of_copy hcopy
    have hsame : fs.SameOutside {place} fs' := .of_edit hedit rfl hplace.not_directory (by simp)
    have hkept : fs'.find (backupPath path) = .ok (place, .file old mode) :=
      FileSystem.find_of_locate (hsame.locate_eq_ok hplace.locate_eq) hplace.no_slash
        hedit.node?_self
    exact ⟨hpath, hcontent, find_eq_of_beside isSuffix_bak hsame hplace.locate_eq,
      .file hfind hkept⟩

/-- A change of the staging file leaves the file and its backup alone. -/
theorem of_edit_staging {old : Bytes} {mode : Nat} (htarget : fs.find path = fs₀.find path)
    (hbackup : BackedUp fs₀ path fs) (hplace : fs.Writable (stagingPath path) place)
    (hedit : fs.Edit place (some (.file old mode)) fs') :
    fs'.find path = fs₀.find path ∧ BackedUp fs₀ path fs' ∧
      fs'.find (stagingPath path) = .ok (place, .file old mode) := by
  have hsame : fs.SameOutside {place} fs' := .of_edit hedit rfl hplace.not_directory (by simp)
  have hkept : fs'.find (backupPath path) = fs.find (backupPath path) :=
    find_append_eq_of_beside isSuffix_tmp isSuffix_bak (by decide) hsame hplace.locate_eq
  exact ⟨(find_eq_of_beside isSuffix_tmp hsame hplace.locate_eq).trans htarget,
    hbackup.of_find_eq hkept,
    FileSystem.find_of_locate (hsame.locate_eq_ok hplace.locate_eq) hplace.no_slash
      hedit.node?_self⟩

/-- The staging file is opened, beside the file and its backup. -/
theorem stage (h : Underway fs₀ path content fs job) (hphase : job.phase = .stage) :
    Underway fs₀ path content (step fs job).1 (step fs job).2 := by
  obtain ⟨hpath, hcontent, hreached⟩ := h
  rw [hphase] at hreached
  obtain ⟨htarget, hbackup⟩ := hreached
  rw [step_of_stage hphase]
  cases hopen : fs.openTruncated (stagingPath job.path) 0o666 with
  | error e => exact ⟨hpath, hcontent, htarget⟩
  | ok opened =>
    obtain ⟨fs', place⟩ := opened
    rw [hpath] at hopen
    obtain ⟨htarget', hbackup', hstaged⟩ := of_edit_staging htarget hbackup
      (FileSystem.writable_of_openTruncated hopen) (FileSystem.edit_of_openTruncated hopen)
    exact ⟨hpath, hcontent, htarget', hbackup', _, hstaged⟩

/-- Whatever is put into the open staging file, the file and its backup stay as they are. So a write
that the system breaks off while it fills its staging file leaves the file as it was. -/
theorem setContent_staging (h : Underway fs₀ path content fs job) (hphase : job.phase = .fill place)
    (part : Bytes) :
    (fs.setContent place part).find path = fs₀.find path ∧
      BackedUp fs₀ path (fs.setContent place part) ∧
      ∃ mode, (fs.setContent place part).find (stagingPath path) =
        .ok (place, .file part mode) := by
  obtain ⟨-, -, hreached⟩ := h
  rw [hphase] at hreached
  obtain ⟨htarget, hbackup, mode, hopened⟩ := hreached
  have hedit := FileSystem.edit_setContent (FileSystem.of_find_eq_ok hopened).2 part
  obtain ⟨htarget', hbackup', hstaged⟩ :=
    of_edit_staging htarget hbackup (FileSystem.writable_of_find hopened) hedit
  exact ⟨htarget', hbackup', mode, hstaged⟩

/-- The staging file is filled, beside the file and its backup. -/
theorem fill (h : Underway fs₀ path content fs job) (hphase : job.phase = .fill place) :
    Underway fs₀ path content (step fs job).1 (step fs job).2 := by
  obtain ⟨htarget, hbackup, mode, hstaged⟩ := h.setContent_staging hphase job.content
  rw [step_of_fill hphase]
  exact ⟨h.path_eq, h.content_eq, htarget, hbackup, place, mode, h.content_eq ▸ hstaged⟩

/-- The publication puts the whole new content in place, and leaves the backup. -/
theorem publish (h : Underway fs₀ path content fs job) (hphase : job.phase = .publish) :
    Underway fs₀ path content (step fs job).1 (step fs job).2 := by
  obtain ⟨hpath, hcontent, hreached⟩ := h
  rw [hphase] at hreached
  obtain ⟨htarget, hbackup, place, mode, hstaged⟩ := hreached
  rw [step_of_publish hphase, hpath]
  cases hrename : fs.rename (stagingPath path) path with
  | error e => exact ⟨hpath, hcontent, htarget⟩
  | ok fs' =>
    have hstaging := FileSystem.writable_of_find hstaged
    obtain ⟨old, n, target, -, hlocate, hnode⟩ := FileSystem.of_rename hrename
    obtain ⟨hwritable, hne⟩ :=
      writable_of_beside isSuffix_tmp hstaging.locate_eq hlocate hnode
    obtain ⟨fs₁, fs'', hrename', hdrop, hput⟩ :=
      FileSystem.rename_of_file hstaged hlocate hnode
    obtain rfl : fs' = fs'' := Except.ok.inj (hrename.symm.trans hrename')
    -- The staging file is taken away, and then the target is put in place.
    have hdropped : fs.SameOutside {place} fs₁ :=
      .of_edit hdrop rfl hstaging.not_directory (by simp)
    have hwritable₁ := hdropped.writable hwritable
    have hplaced : fs₁.SameOutside {target} fs' :=
      .of_edit hput rfl hwritable₁.not_directory (by simp)
    have hread : fs'.read path = .ok content := by
      rw [FileSystem.read_of_writable (hplaced.writable hwritable₁), hput.node?_self]
    have hkept : fs'.find (backupPath path) = fs.find (backupPath path) :=
      (find_append_eq_of_target isSuffix_bak hplaced hwritable₁).trans
        (find_append_eq_of_beside isSuffix_tmp isSuffix_bak (by decide) hdropped
          hstaging.locate_eq)
    have hstaging' := hplaced.writable (hdropped.writable hstaging)
    have hgone : fs'.node? place = none := by
      rw [hput.node?_of_ne hne.symm, hdrop.node?_self]
    exact ⟨hpath, hcontent, ⟨hread, hbackup.of_find_eq hkept,
      FileSystem.find_of_node?_eq_none hstaging'.locate_eq hgone⟩, place, hstaging'⟩

/-- Every step leads from the condition of one phase to that of the next. -/
theorem step (h : Underway fs₀ path content fs job) :
    Underway fs₀ path content (step fs job).1 (step fs job).2 := by
  cases hphase : job.phase with
  | check => exact h.check hphase
  | backup => exact h.backup hphase
  | stage => exact h.stage hphase
  | fill place => exact h.fill hphase
  | publish => exact h.publish hphase
  | done outcome =>
    rw [step_of_done hphase]
    exact h

/-- However far a write has come, the condition of its phase holds. -/
theorem steps (h : Underway fs₀ path content fs job) (n : Nat) :
    Underway fs₀ path content (steps n fs job).1 (steps n fs job).2 := by
  induction n generalizing fs job with
  | zero => exact h
  | succ n ih => exact ih h.step

/-- A reader finds what was there before or the whole of the new content. -/
theorem old_or_new (h : Underway fs₀ path content fs job) :
    fs.find path = fs₀.find path ∨ fs.read path = .ok content := by
  obtain ⟨-, -, hreached⟩ := h
  match hphase : job.phase with
  | .check | .backup =>
    rw [hphase] at hreached
    obtain rfl : fs = fs₀ := hreached
    exact .inl rfl
  | .stage | .fill place | .publish =>
    rw [hphase] at hreached
    exact .inl hreached.1
  | .done (.error e) =>
    rw [hphase] at hreached
    exact .inl hreached
  | .done (.ok ()) =>
    rw [hphase] at hreached
    exact .inr hreached.1.target

end Underway

/-- A write that starts meets the condition of every phase that it comes to. -/
theorem underway_steps (fs : FileSystem) (path : String) (content : Bytes) (n : Nat) :
    Underway fs path content (steps n fs { path, content }).1
      (steps n fs { path, content }).2 :=
  have hstart : Underway fs path content fs { path, content } := ⟨rfl, rfl, rfl⟩
  hstart.steps n

/-! ### What is in the way of a write -/

/-- From its staging on, a write succeeds if it can write the file and the staging file. -/
theorem exists_steps_of_stage {target staging : Location} (hphase : job.phase = .stage)
    (htarget : fs.Writable job.path target) (hstaging : fs.Writable (stagingPath job.path) staging)
    (n : Nat) : ∃ fs', steps (n + 3) fs job = (fs', { job with phase := .done (.ok ()) }) := by
  obtain ⟨fs₁, kept, hstage, hedit⟩ := steps_stage hstaging hphase (n + 1)
  have hsame : fs.SameOutside {staging} fs₁ := .of_edit hedit rfl hstaging.not_directory (by simp)
  have htarget₁ := hsame.writable htarget
  have hfind : fs₁.find (stagingPath job.path) = .ok (staging, .file job.content kept) :=
    FileSystem.find_of_locate (hsame.locate_eq_ok hstaging.locate_eq) hstaging.no_slash
      hedit.node?_self
  obtain ⟨-, fs₂, hrename, -, -⟩ :=
    FileSystem.rename_of_file hfind htarget₁.locate_eq htarget₁.not_directory
  have hpublish : step fs₁ { job with phase := .publish } =
      (fs₂, { job with phase := .done (.ok ()) }) := by
    simp only [step, hrename, proceed]
  exact ⟨fs₂, by rw [hstage, steps_succ, hpublish, steps_of_done rfl]⟩

/-- A write with nothing in its way is done after five steps, and succeeds. -/
theorem exists_steps_of_unobstructed (h : Unobstructed fs path) (content : Bytes) :
    ∃ fs', steps 5 fs { path, content } = (fs', { path, content, phase := .done (.ok ()) }) := by
  obtain ⟨⟨target, htarget⟩, hbackup, staging, hstaging⟩ := h
  have hexists := FileSystem.tryExists_of_locate htarget.locate_eq htarget.no_slash
  rw [steps_succ, step_of_check rfl, hexists]
  cases hnode : fs.node? target with
  | none =>
    exact @exists_steps_of_stage fs { path, content, phase := .stage } _ _ rfl htarget hstaging 1
  | some n =>
    cases n with
    | directory => exact absurd hnode htarget.not_directory
    | file old mode =>
      have hfind := FileSystem.find_of_locate htarget.locate_eq htarget.no_slash hnode
      obtain ⟨backup, hbackup⟩ := hbackup (by simp [hfind])
      obtain ⟨fs₁, hcopy, hedit⟩ := FileSystem.copy_of_writable hfind hbackup
      have hsame : fs.SameOutside {backup} fs₁ :=
        .of_edit hedit rfl hbackup.not_directory (by simp)
      have hkept : step fs { path, content, phase := .backup } =
          (fs₁, { path, content, phase := .stage }) := by
        simp only [step, hcopy, proceed]
      change ∃ fs', steps (3 + 1) fs { path, content, phase := .backup } = _
      rw [steps_succ, hkept]
      exact @exists_steps_of_stage fs₁ { path, content, phase := .stage } _ _ rfl
        (hsame.writable htarget) (hsame.writable hstaging) 0

end WriteJob

/-! ### A call as a whole -/

/-- The file system when a write has taken `n` steps. A refused update takes none. -/
def duringWrite (fs : FileSystem) (path : String) (u : UserUpdate) (n : Nat) : FileSystem :=
  match u.render with
  | .error _ => fs
  | .ok text => (WriteJob.steps n fs { path, content := Text.encode text }).1

/-- A call takes all five steps and answers what the last one answers. -/
theorem writeUserConfig_eq (fs : FileSystem) (path : String) {u : UserUpdate} {text : String}
    (hrender : u.render = .ok text) :
    ∃ outcome, (WriteJob.steps 5 fs { path, content := Text.encode text }).2.phase =
        .done outcome ∧
      writeUserConfig fs path u =
        (duringWrite fs path u 5, outcome.mapError (.io path)) := by
  obtain ⟨outcome, hphase⟩ :=
    WriteJob.exists_outcome_steps_five fs { path, content := Text.encode text }
  refine ⟨outcome, hphase, ?_⟩
  rw [writeUserConfig, duringWrite, hrender]
  dsimp only
  rw [WriteJob.outcome?, hphase]
  cases outcome <;> rfl

/-- A refused update changes nothing and is answered with the entry that was refused. -/
theorem writeUserConfig_eq_of_refused {u : UserUpdate} {e : RefusedEntry}
    (hrender : u.render = .error e) : writeUserConfig fs path u = (fs, .error (.refused e)) := by
  rw [writeUserConfig, hrender]

/-- Where a write has published its text, nothing was in its way. -/
theorem unobstructed_of_published {content : Bytes} {places : Set Location}
    (hsame : fs.SameOutside places fs') (h : Published fs path content fs')
    (hstaging : ∃ place, fs'.Writable (stagingPath path) place) : Unobstructed fs path := by
  have htarget : ∃ place, fs'.Writable path place := by
    have hread := h.target
    rw [FileSystem.read] at hread
    cases hfind : fs'.find path with
    | error e => simp [hfind, bind, Except.bind] at hread
    | ok found =>
      obtain ⟨place, n⟩ := found
      cases n with
      | directory => simp [hfind, bind, Except.bind] at hread
      | file old mode => exact ⟨place, FileSystem.writable_of_find hfind⟩
  refine ⟨?_, fun hexists => ?_, ?_⟩
  · exact htarget.imp fun _ => hsame.symm.writable
  · cases h.backup with
    | nothing hold hkept => exact absurd hold hexists
    | file hold hkept => exact ⟨_, hsame.symm.writable (FileSystem.writable_of_find hkept)⟩
  · exact hstaging.imp fun _ => hsame.symm.writable

/-- **A write replaces its file at once.** After any number of steps a reader of the file finds what
was there before or the whole of the new text, and nothing but the file, its backup and its staging
file is touched. A refused update changes nothing, and a write that fails leaves the file as it
was. A write succeeds exactly if the update is not refused and nothing is in its way, and then the
file has the new text, the backup is what was there before, and the staging file is gone. -/
theorem target_replaced_at_once (fs : FileSystem) (path : String) (u : UserUpdate) :
    (∀ n, (duringWrite fs path u n).find path = fs.find path ∨
      ∃ text, u.render = .ok text ∧
        (duringWrite fs path u n).read path = .ok (Text.encode text)) ∧
    (∀ n, fs.SameOutside (writePlaces fs path) (duringWrite fs path u n)) ∧
    (writeUserConfig fs path u).1 = duringWrite fs path u 5 ∧
    (match (writeUserConfig fs path u).2 with
      | .error (.refused e) => u.render = .error e ∧ ∀ n, duringWrite fs path u n = fs
      | .error (.io p _) => p = path ∧ (writeUserConfig fs path u).1.find path = fs.find path
      | .ok () => ∃ text, u.render = .ok text ∧
          Published fs path (Text.encode text) (writeUserConfig fs path u).1) ∧
    ((writeUserConfig fs path u).2 = .ok () ↔
      (∃ text, u.render = .ok text) ∧ Unobstructed fs path) := by
  cases hrender : u.render with
  | error e =>
    have hstays : ∀ n, duringWrite fs path u n = fs := fun n => by rw [duringWrite, hrender]
    rw [writeUserConfig_eq_of_refused hrender]
    refine ⟨fun n => .inl (by rw [hstays]), fun n => ?_, (hstays 5).symm, ⟨rfl, hstays⟩, ?_⟩
    · rw [hstays]
      exact .refl _ fs
    · simp
  | ok text =>
    have hduring : ∀ n, duringWrite fs path u n =
        (WriteJob.steps n fs { path, content := Text.encode text }).1 := fun n => by
      rw [duringWrite, hrender]
    have hsame : ∀ n, fs.SameOutside (writePlaces fs path) (duringWrite fs path u n) :=
      fun n => hduring n ▸ WriteJob.sameOutside_steps fs path (Text.encode text) n
    obtain ⟨outcome, hphase, hcall⟩ := writeUserConfig_eq fs path hrender
    have hreached := (WriteJob.underway_steps fs path (Text.encode text) 5).reached
    rw [hphase, ← hduring] at hreached
    rw [hcall]
    refine ⟨fun n => ?_, hsame, rfl, ?_, ?_⟩
    · rw [hduring]
      exact (WriteJob.underway_steps fs path (Text.encode text) n).old_or_new.imp_right
        fun hnew => ⟨text, rfl, hnew⟩
    · cases outcome with
      | error e => exact ⟨rfl, hreached⟩
      | ok _ => exact ⟨text, rfl, hreached.1⟩
    · constructor
      · intro hok
        cases outcome with
        | error e => simp [Except.mapError] at hok
        | ok _ =>
          exact ⟨⟨text, rfl⟩, unobstructed_of_published (hsame 5) hreached.1 hreached.2⟩
      · rintro ⟨-, hfree⟩
        obtain ⟨fs', hsteps⟩ := WriteJob.exists_steps_of_unobstructed hfree (Text.encode text)
        rw [hsteps] at hphase
        obtain rfl : .ok () = outcome := by simpa using hphase
        rfl

end GatewayAgent
