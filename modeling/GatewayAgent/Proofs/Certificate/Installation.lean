import GatewayAgent.Certificate.Bootstrap
import GatewayAgent.Proofs.Host.Directories

/-!
# Installing files

The three files of a bootstrap are installed one after the other: for each, the missing directories
are made and the file is put in its place. `Installs` says what that does to a file system, and
`installation_cases` that a run either does it for all files or stops at one of them with what is
done for those before it. The file where it stops is left alone, unless a step breaks while it is
written; then a beginning of its text stands in its place (`InstallFile.Refused`).

Two paths may lead to the same place. Then the later file stands there in the end
(`Installs.node?_eq`).
-/

namespace GatewayAgent

variable {fs fs' fs'' : FileSystem} {place : Location} {faults : StepFaults} {cause : SystemError}

/-! ### Steps that break -/

namespace StepFaults

/-- One of the steps breaks with the cause. -/
def Reports (faults : StepFaults) (cause : SystemError) : Prop :=
  ∃ n fault, faults n = some fault ∧ fault.cause = cause

theorem Reports.of_after {n : Nat} (h : (faults.after n).Reports cause) : faults.Reports cause := by
  obtain ⟨i, fault, hfault, hcause⟩ := h
  exact ⟨n + i, fault, hfault, hcause⟩

theorem not_reports_none (cause : SystemError) : ¬StepFaults.none.Reports cause := by
  rintro ⟨n, fault, hfault, -⟩
  cases hfault

theorem after_after (faults : StepFaults) (m n : Nat) :
    (faults.after m).after n = faults.after (m + n) :=
  funext fun i => congrArg faults (Nat.add_assoc m n i).symm

end StepFaults

/-! ### Runs of steps -/

namespace InstallStep

variable {e : CertificateError} {steps more : List InstallStep}

theorem after_length_cons (faults : StepFaults) (s : InstallStep) (rest : List InstallStep) :
    (faults.after 1).after rest.length = faults.after (s :: rest).length := by
  rw [StepFaults.after_after, Nat.add_comm, List.length_cons]

theorem runAll_append_of_ok (h : runAll faults steps fs = (fs', .ok ()))
    (more : List InstallStep) :
    runAll faults (steps ++ more) fs = runAll (faults.after steps.length) more fs' := by
  induction steps generalizing fs faults with
  | nil =>
    obtain rfl : fs = fs' := congrArg Prod.fst h
    exact congrArg (runAll · more fs) (funext fun i => congrArg faults (Nat.zero_add i).symm)
  | cons s rest ih =>
    rcases hrun : s.run fs (faults 0) with ⟨fs₁, cause | _⟩
    · simp [runAll, hrun] at h
    · simp only [runAll, hrun] at h
      simp only [List.cons_append, runAll, hrun]
      rw [ih h, after_length_cons]

theorem runAll_append_of_error (h : runAll faults steps fs = (fs', .error e))
    (more : List InstallStep) : runAll faults (steps ++ more) fs = (fs', .error e) := by
  induction steps generalizing fs faults with
  | nil => simp [runAll] at h
  | cons s rest ih =>
    rcases hrun : s.run fs (faults 0) with ⟨fs₁, cause | _⟩
    · simp only [runAll, hrun] at h
      simp only [List.cons_append, runAll, hrun]
      exact h
    · simp only [runAll, hrun] at h
      simp only [List.cons_append, runAll, hrun]
      exact ih h

theorem states_append_of_ok (h : runAll faults steps fs = (fs', .ok ()))
    (more : List InstallStep) :
    states faults (steps ++ more) fs =
      states faults steps fs ++ states (faults.after steps.length) more fs' := by
  induction steps generalizing fs faults with
  | nil =>
    obtain rfl : fs = fs' := congrArg Prod.fst h
    exact congrArg (states · more fs) (funext fun i => congrArg faults (Nat.zero_add i).symm)
  | cons s rest ih =>
    rcases hrun : s.run fs (faults 0) with ⟨fs₁, cause | _⟩
    · simp [runAll, hrun] at h
    · simp only [runAll, hrun] at h
      simp only [List.cons_append, states, hrun]
      rw [ih h, after_length_cons]

theorem states_append_of_error (h : runAll faults steps fs = (fs', .error e))
    (more : List InstallStep) : states faults (steps ++ more) fs = states faults steps fs := by
  induction steps generalizing fs faults with
  | nil => simp [runAll] at h
  | cons s rest ih =>
    rcases hrun : s.run fs (faults 0) with ⟨fs₁, cause | _⟩
    · simp only [List.cons_append, states, hrun]
    · simp only [runAll, hrun] at h
      simp only [List.cons_append, states, hrun]
      rw [ih h]

/-- Replacing the content of a file edits it; what is no file stays. -/
theorem setContent_cases (fs : FileSystem) (place : Location) (content : Bytes) :
    fs.GrownOutside ∅ (fs.setContent place content) ∨
      ∃ mode, fs.Edit place (some (.file content mode)) (fs.setContent place content) := by
  cases hnode : fs.node? place with
  | none =>
    rw [FileSystem.setContent, hnode]
    exact .inl (.refl ∅ fs)
  | some n =>
    cases n with
    | directory =>
      rw [FileSystem.setContent, hnode]
      exact .inl (.refl ∅ fs)
    | file old mode => exact .inr ⟨mode, FileSystem.edit_setContent hnode content⟩

theorem grownOutside_makeDirectoryPath (fs : FileSystem) (path : String) :
    fs.GrownOutside ∅ (fs.makeDirectoryPath path).1 :=
  FileSystem.grownOutside_makeDirectories fs (path.length + 1) path

/-- What a step can do: it makes new directories, or there is a file at one place, which is empty,
filled with a beginning of the content, or the old one with other permissions. -/
def Changes (s : InstallStep) (fs fs' : FileSystem) : Prop :=
  fs.GrownOutside ∅ fs' ∨
    ∃ place content mode, fs.Edit place (some (.file content mode)) fs' ∧
      (content = [] ∨ (∃ path whole, s = .fill path whole ∧ content <+: whole) ∨
        ∃ old, fs.node? place = some (.file content old))

theorem changes_attempt (s : InstallStep) (fs : FileSystem) : s.Changes fs (s.attempt fs).1 := by
  have hnothing : fs.GrownOutside ∅ fs := .refl ∅ fs
  cases s with
  | makeDirectory path =>
    refine .inl ?_
    have hgrown := grownOutside_makeDirectoryPath fs path
    rw [attempt]
    split <;> next hmade => rwa [hmade] at hgrown
  | openFile path mode =>
    rw [attempt]
    split
    · next hopen =>
      exact .inr ⟨_, _, _, FileSystem.edit_of_openTruncated hopen, .inl rfl⟩
    · exact .inl hnothing
  | fill path content =>
    rw [attempt]
    split
    · next place _ =>
      refine (setContent_cases fs place content).imp_right fun ⟨mode, hedit⟩ => ?_
      exact ⟨place, content, mode, hedit, .inr (.inl ⟨path, content, rfl, List.prefix_rfl⟩)⟩
    · exact .inl hnothing
  | restrict path mode =>
    rw [attempt]
    split
    · next hchmod =>
      rw [FileSystem.chmod] at hchmod
      cases hfind : fs.find path with
      | error e => simp [hfind, bind, Except.bind] at hchmod
      | ok found =>
        obtain ⟨place, n⟩ := found
        obtain rfl : fs.setMode place mode = _ := by simpa [hfind, bind, Except.bind] using hchmod
        have hnode := (FileSystem.of_find_eq_ok hfind).2
        cases n with
        | directory => exact .inl (by rwa [FileSystem.setMode, hnode])
        | file content old =>
          exact .inr ⟨_, _, _, FileSystem.edit_setMode hnode mode, .inr (.inr ⟨old, hnode⟩)⟩
    · exact .inl hnothing

theorem changes_breakOff (s : InstallStep) (fs : FileSystem) (fault : StepFault) :
    s.Changes fs (s.breakOff fs fault).1 := by
  have hnothing : fs.GrownOutside ∅ fs := .refl ∅ fs
  cases s with
  | makeDirectory path =>
    rw [breakOff]
    split
    · next above _ => exact .inl (grownOutside_makeDirectoryPath fs above)
    · exact .inl hnothing
  | openFile path mode => exact .inl hnothing
  | fill path content =>
    rw [breakOff]
    split
    · next place _ =>
      have hpart : content.dropLast.take fault.progress <+: content :=
        (List.take_prefix _ _).trans (List.dropLast_prefix content)
      refine (setContent_cases fs place _).imp_right fun ⟨mode, hedit⟩ => ?_
      exact ⟨place, _, mode, hedit, .inr (.inl ⟨path, content, rfl, hpart⟩)⟩
    · exact .inl hnothing
  | restrict path mode => exact .inl hnothing

/-- This holds of every step, whether or not it breaks. -/
theorem changes_run (s : InstallStep) (fs : FileSystem) (fault : Option StepFault) :
    s.Changes fs (s.run fs fault).1 := by
  cases fault with
  | none => exact s.changes_attempt fs
  | some fault => exact s.changes_breakOff fs fault

/-- What every step keeps holds in every state of a run, and in the end. -/
theorem forall_states {P : FileSystem → Prop}
    (hstep : ∀ s ∈ steps, ∀ fs fault, P fs → P (s.run fs fault).1) (h : P fs)
    (faults : StepFaults) :
    P (runAll faults steps fs).1 ∧ ∀ fs' ∈ states faults steps fs, P fs' := by
  induction steps generalizing fs faults with
  | nil => exact ⟨h, by simp [states]⟩
  | cons s rest ih =>
    have hnext : P (s.run fs (faults 0)).1 := hstep s List.mem_cons_self fs (faults 0) h
    have hrest := ih (fun t ht => hstep t (List.mem_cons_of_mem s ht)) hnext (faults.after 1)
    rcases hrun : s.run fs (faults 0) with ⟨fs₁, cause | _⟩
    · rw [hrun] at hnext
      simp only [runAll, states, hrun]
      exact ⟨hnext, by simpa using hnext⟩
    · rw [hrun] at hnext hrest
      simp only [runAll, states, hrun]
      exact ⟨hrest.1, List.forall_mem_cons.mpr ⟨hnext, hrest.2⟩⟩

end InstallStep

/-! ### The steps of one file -/

/-- A file that is to be installed. -/
structure InstallFile where
  path : String
  text : String
  mode : Nat

namespace InstallFile

/-- What is in the file's place when it is installed. -/
def node (f : InstallFile) : FileNode := .file (Text.encode f.text) f.mode

/-- The step that makes the directory of the file, if it has one. -/
def directorySteps (f : InstallFile) : List InstallStep :=
  ((Path.parent? f.path).filter (· ≠ "")).toList.map .makeDirectory

/-- The steps that put the file in its place. -/
def writeSteps (f : InstallFile) : List InstallStep :=
  [.openFile f.path f.mode, .fill f.path (Text.encode f.text), .restrict f.path f.mode]

/-- All steps for the file. -/
def steps (f : InstallFile) : List InstallStep := InstallStep.forFile f.path f.text f.mode

theorem steps_eq (f : InstallFile) : f.steps = f.directorySteps ++ f.writeSteps := rfl

/-- A file that is edited where a path leads is still where the path leads. -/
theorem locate_of_edit {f : InstallFile} (h : fs.Writable f.path place) {content : Bytes}
    {mode : Nat} (hedit : fs.Edit place (some (.file content mode)) fs') :
    fs'.locate f.path = .ok place := by
  have hsame : fs.SameOutside {place} fs' := .of_edit hedit rfl h.not_directory (by simp)
  exact hsame.locate_eq_ok h.locate_eq

/-- How a file that could not be installed is left, and with which error. Its directory could not be
made, or it could not be opened: then there are at most new directories. Or it was opened and a step
broke behind that: then its place holds a beginning of its text, under the permissions that it was
opened with. -/
inductive Refused (f : InstallFile) (faults : StepFaults) (fs fs' : FileSystem) :
    CertificateError → Prop
  | directory {parent : String} {cause : SystemError} (hparent : Path.parent? f.path = some parent)
      (hnamed : parent ≠ "") (hgrown : fs.GrownOutside ∅ fs')
      (hreason : faults.Reports cause ∨ (fs.makeDirectoryPath parent).2 = .error cause) :
      Refused f faults fs fs' (.directory parent cause)
  | opening {cause : SystemError} (hgrown : fs.GrownOutside ∅ fs')
      (hplain : f.directorySteps = [] → fs' = fs)
      (hreason : faults.Reports cause ∨ fs'.openTruncated f.path f.mode = .error cause) :
      Refused f faults fs fs' (.write f.path cause)
  | begun {fs₁ : FileSystem} {place : Location} {content : Bytes} {cause : SystemError}
      (hgrown : fs.GrownOutside ∅ fs₁) (hplace : fs₁.Writable f.path place)
      (hpart : content <+: Text.encode f.text)
      (hedit : fs₁.Edit place (some (.file content (fs₁.openedMode place f.mode))) fs')
      (hreason : faults.Reports cause) :
      Refused f faults fs fs' (.write f.path cause)

theorem Refused.of_after {f : InstallFile} {n : Nat} {e : CertificateError}
    (h : f.Refused (faults.after n) fs fs' e) : f.Refused faults fs fs' e := by
  cases h with
  | directory hparent hnamed hgrown hreason =>
    exact .directory hparent hnamed hgrown (hreason.imp_left StepFaults.Reports.of_after)
  | opening hgrown hplain hreason =>
    exact .opening hgrown hplain (hreason.imp_left StepFaults.Reports.of_after)
  | begun hgrown hplace hpart hedit hreason =>
    exact .begun hgrown hplace hpart hedit hreason.of_after

/-- Outside the place of the file, only directories are new. -/
theorem Refused.grownOutside {f : InstallFile} {e : CertificateError}
    (h : f.Refused faults fs fs' e) :
    fs.GrownOutside {place | fs'.locate f.path = .ok place} fs' := by
  cases h with
  | directory hparent hnamed hgrown hreason => exact hgrown.mono (Set.empty_subset _)
  | opening hgrown hplain hreason => exact hgrown.mono (Set.empty_subset _)
  | begun hgrown hplace hpart hedit hreason =>
    exact (hgrown.mono (Set.empty_subset _)).trans
      (.of_edit hedit (locate_of_edit hplace hedit) hplace.not_directory)

/-- Where no step breaks, only directories are new. -/
theorem Refused.grownOutside_empty {f : InstallFile} {e : CertificateError}
    (h : f.Refused StepFaults.none fs fs' e) : fs.GrownOutside ∅ fs' := by
  cases h with
  | directory hparent hnamed hgrown hreason => exact hgrown
  | opening hgrown hplain hreason => exact hgrown
  | begun hgrown hplace hpart hedit hreason =>
    exact absurd hreason (StepFaults.not_reports_none _)

/-- A file is what it was, or it stood in the place of the one that is begun. Then it is overwritten
with a beginning of the new text, and keeps its permissions. -/
theorem Refused.kept_or_begun {f : InstallFile} {e : CertificateError}
    (h : f.Refused faults fs fs' e) {content : Bytes} {mode : Nat}
    (hold : fs.node? place = some (.file content mode)) :
    fs'.node? place = some (.file content mode) ∨
      ∃ cause part, e = .write f.path cause ∧ faults.Reports cause ∧
        part <+: Text.encode f.text ∧ fs'.locate f.path = .ok place ∧
        fs'.node? place = some (.file part mode) := by
  cases h with
  | directory hparent hnamed hgrown hreason =>
    exact .inl ((hgrown.file_iff (Set.notMem_empty place)).mpr hold)
  | opening hgrown hplain hreason =>
    exact .inl ((hgrown.file_iff (Set.notMem_empty place)).mpr hold)
  | @begun fs₁ p part cause hgrown hplace hpart hedit hreason =>
    have hold₁ := (hgrown.file_iff (Set.notMem_empty place)).mpr hold
    by_cases hp : place = p
    · subst hp
      refine .inr ⟨cause, part, rfl, hreason, hpart, locate_of_edit hplace hedit, ?_⟩
      rw [hedit.node?_self, FileSystem.openedMode, hold₁]
    · exact .inl ((hedit.node?_of_ne hp).trans hold₁)

theorem directorySteps_eq_nil {f : InstallFile}
    (h : (Path.parent? f.path).filter (· ≠ "") = none) : f.directorySteps = [] := by
  rw [directorySteps, h]
  rfl

theorem directorySteps_eq_singleton {f : InstallFile} {parent : String}
    (hparent : Path.parent? f.path = some parent) (hnamed : parent ≠ "") :
    f.directorySteps = [.makeDirectory parent] := by
  have hfilter : (Path.parent? f.path).filter (· ≠ "") = some parent := by
    rw [Option.filter_eq_some_iff]
    exact ⟨hparent, by simpa using hnamed⟩
  rw [directorySteps, hfilter]
  rfl

/-- Where no step breaks, a file in a directory that is there is refused only if it cannot be
written. -/
theorem Refused.not_writable {f : InstallFile} {e : CertificateError}
    (h : f.Refused StepFaults.none fs fs' e) (hnone : f.directorySteps = []) :
    ¬ ∃ place, fs.Writable f.path place := by
  rintro ⟨place, hwritable⟩
  cases h with
  | directory hparent hnamed hgrown hreason =>
    rw [directorySteps_eq_singleton hparent hnamed] at hnone
    cases hnone
  | opening hgrown hplain hreason =>
    obtain rfl := hplain hnone
    obtain ⟨fs₁, hopen, -⟩ := FileSystem.openTruncated_of_writable hwritable f.mode
    rcases hreason with hreason | hrefused
    · exact StepFaults.not_reports_none _ hreason
    · simp [hopen] at hrefused
  | begun hgrown hplace hpart hedit hreason => exact StepFaults.not_reports_none _ hreason

theorem runAll_directorySteps (f : InstallFile) (faults : StepFaults) (fs : FileSystem) :
    (∃ fs', fs.GrownOutside ∅ fs' ∧ (f.directorySteps = [] → fs' = fs) ∧
      InstallStep.runAll faults f.directorySteps fs = (fs', .ok ())) ∨
    ∃ fs' e, f.Refused faults fs fs' e ∧
      InstallStep.runAll faults f.directorySteps fs = (fs', .error e) := by
  cases hparent : (Path.parent? f.path).filter (· ≠ "") with
  | none =>
    refine .inl ⟨fs, .refl ∅ fs, fun _ => rfl, ?_⟩
    rw [directorySteps_eq_nil hparent]
    rfl
  | some parent =>
    rw [Option.filter_eq_some_iff] at hparent
    obtain ⟨hparent, hnamed⟩ := hparent
    replace hnamed : parent ≠ "" := by simpa using hnamed
    rw [directorySteps_eq_singleton hparent hnamed]
    cases hfault : faults 0 with
    | some fault =>
      have hgrown : fs.GrownOutside ∅ ((InstallStep.makeDirectory parent).breakOff fs fault).1 := by
        rw [InstallStep.breakOff]
        split
        · exact InstallStep.grownOutside_makeDirectoryPath fs _
        · exact .refl ∅ fs
      have herror : ((InstallStep.makeDirectory parent).breakOff fs fault).2 =
          .directory parent fault.cause := by
        rw [InstallStep.breakOff]
        split <;> rfl
      refine .inr ⟨_, _, .directory hparent hnamed hgrown (.inl ⟨0, fault, hfault, rfl⟩), ?_⟩
      simp only [InstallStep.runAll, InstallStep.run, hfault, Prod.map, id_eq, herror]
    | none =>
      have hgrown := InstallStep.grownOutside_makeDirectoryPath fs parent
      rcases hmade : fs.makeDirectoryPath parent with ⟨fs', cause | _⟩
      · rw [hmade] at hgrown
        refine .inr ⟨fs', _, .directory hparent hnamed hgrown (.inr (by rw [hmade])), ?_⟩
        simp only [InstallStep.runAll, InstallStep.run, hfault, InstallStep.attempt, hmade]
      · rw [hmade] at hgrown
        refine .inl ⟨fs', hgrown, nofun, ?_⟩
        simp only [InstallStep.runAll, InstallStep.run, hfault, InstallStep.attempt, hmade]

/-- A run of the steps that put a file in its place: the states on the way, what is left, and how it
ends. It ends with the first step that breaks. -/
inductive WriteRun (f : InstallFile) (faults : StepFaults) (fs : FileSystem) (place : Location) :
    List FileSystem → FileSystem → Except CertificateError Unit → Prop
  | unopened {fault : StepFault} (hopen : faults 0 = some fault) :
      WriteRun f faults fs place [fs] fs (.error (.write f.path fault.cause))
  | torn {fs₁ fs₂ : FileSystem} {fault : StepFault} (hopen : faults 0 = none)
      (hfill : faults 1 = some fault)
      (hedit₁ : fs.Edit place (some (.file [] (fs.openedMode place f.mode))) fs₁)
      (hedit₂ : fs.Edit place (some (.file ((Text.encode f.text).dropLast.take fault.progress)
        (fs.openedMode place f.mode))) fs₂) :
      WriteRun f faults fs place [fs₁, fs₂] fs₂ (.error (.write f.path fault.cause))
  | unrestricted {fs₁ fs₂ : FileSystem} {fault : StepFault} (hopen : faults 0 = none)
      (hfill : faults 1 = none) (hrestrict : faults 2 = some fault)
      (hedit₁ : fs.Edit place (some (.file [] (fs.openedMode place f.mode))) fs₁)
      (hedit₂ : fs.Edit place
        (some (.file (Text.encode f.text) (fs.openedMode place f.mode))) fs₂) :
      WriteRun f faults fs place [fs₁, fs₂, fs₂] fs₂ (.error (.write f.path fault.cause))
  | whole {fs₁ fs₂ fs₃ : FileSystem} (hopen : faults 0 = none) (hfill : faults 1 = none)
      (hrestrict : faults 2 = none)
      (hedit₁ : fs.Edit place (some (.file [] (fs.openedMode place f.mode))) fs₁)
      (hedit₂ : fs.Edit place
        (some (.file (Text.encode f.text) (fs.openedMode place f.mode))) fs₂)
      (hedit₃ : fs.Edit place (some f.node) fs₃) :
      WriteRun f faults fs place [fs₁, fs₂, fs₃] fs₃ (.ok ())

/-- Where the file can be written, it takes three states until it is installed: empty, filled, and
with its own permissions. -/
theorem exists_writeRun (f : InstallFile) (faults : StepFaults) (h : fs.Writable f.path place) :
    ∃ states fs' result, InstallStep.states faults f.writeSteps fs = states ∧
      InstallStep.runAll faults f.writeSteps fs = (fs', result) ∧
      f.WriteRun faults fs place states fs' result := by
  obtain ⟨fs₁, hopen, hedit₁⟩ := FileSystem.openTruncated_of_writable h f.mode
  have hlocate := locate_of_edit h hedit₁
  have hpart : ∀ content, fs.Edit place (some (.file content (fs.openedMode place f.mode)))
      (fs₁.setContent place content) := fun content =>
    hedit₁.trans (FileSystem.edit_setContent hedit₁.node?_self content)
  have hedit₂ := hpart (Text.encode f.text)
  have hfind := FileSystem.find_of_locate (locate_of_edit h hedit₂) h.no_slash hedit₂.node?_self
  have hedit₃ := hedit₂.trans (FileSystem.edit_setMode hedit₂.node?_self f.mode)
  have hopened : (InstallStep.openFile f.path f.mode).run fs none = (fs₁, .ok ()) := by
    rw [InstallStep.run, InstallStep.attempt, hopen]
  have hfilled : (InstallStep.fill f.path (Text.encode f.text)).run fs₁ none =
      (fs₁.setContent place (Text.encode f.text), .ok ()) := by
    rw [InstallStep.run, InstallStep.attempt, hlocate]
  have hrestricted : (InstallStep.restrict f.path f.mode).run
      (fs₁.setContent place (Text.encode f.text)) none =
      ((fs₁.setContent place (Text.encode f.text)).setMode place f.mode, .ok ()) := by
    rw [InstallStep.run, InstallStep.attempt, FileSystem.chmod, hfind]
    rfl
  cases h₀ : faults 0 with
  | some fault =>
    refine ⟨_, _, _, ?_, ?_, .unopened h₀⟩
    · simp only [writeSteps, InstallStep.states, h₀]
      rfl
    · simp only [writeSteps, InstallStep.runAll, h₀]
      rfl
  | none =>
    cases h₁ : faults 1 with
    | some fault =>
      have htorn : (InstallStep.fill f.path (Text.encode f.text)).run fs₁ (some fault) =
          (fs₁.setContent place ((Text.encode f.text).dropLast.take fault.progress),
            .error (.write f.path fault.cause)) := by
        rw [InstallStep.run, InstallStep.breakOff, hlocate]
        rfl
      refine ⟨_, _, _, ?_, ?_, .torn h₀ h₁ hedit₁ (hpart _)⟩
      · simp only [writeSteps, InstallStep.states, StepFaults.after, h₀, h₁, hopened, htorn]
      · simp only [writeSteps, InstallStep.runAll, StepFaults.after, h₀, h₁, hopened, htorn]
    | none =>
      cases h₂ : faults 2 with
      | some fault =>
        refine ⟨_, _, _, ?_, ?_, .unrestricted h₀ h₁ h₂ hedit₁ hedit₂⟩
        · simp only [writeSteps, InstallStep.states, StepFaults.after, h₀, h₁, h₂, hopened, hfilled]
          rfl
        · simp only [writeSteps, InstallStep.runAll, StepFaults.after, h₀, h₁, h₂, hopened, hfilled]
          rfl
      | none =>
        refine ⟨_, _, _, ?_, ?_, .whole h₀ h₁ h₂ hedit₁ hedit₂ hedit₃⟩
        · simp only [writeSteps, InstallStep.states, StepFaults.after, h₀, h₁, h₂, hopened, hfilled,
            hrestricted]
        · simp only [writeSteps, InstallStep.runAll, StepFaults.after, h₀, h₁, h₂, hopened, hfilled,
            hrestricted]

/-- Once the directory of the file is made, a run puts the file in its place or refuses it. -/
theorem WriteRun.cases {f : InstallFile} {fs₁ : FileSystem} {states : List FileSystem}
    {result : Except CertificateError Unit} (h : f.WriteRun faults fs₁ place states fs' result)
    (hgrown : fs.GrownOutside ∅ fs₁) (hplain : f.directorySteps = [] → fs₁ = fs)
    (hplace : fs₁.Writable f.path place) :
    (result = .ok () ∧ fs₁.Edit place (some f.node) fs') ∨
      ∃ e, result = .error e ∧ f.Refused faults fs fs' e := by
  cases h with
  | @unopened fault hopen =>
    exact .inr ⟨_, rfl, .opening hgrown hplain (.inl ⟨0, fault, hopen, rfl⟩)⟩
  | @torn _ _ fault hopen hfill hedit₁ hedit₂ =>
    have hpart := (List.take_prefix fault.progress _).trans
      (List.dropLast_prefix (Text.encode f.text))
    exact .inr ⟨_, rfl, .begun hgrown hplace hpart hedit₂ ⟨1, fault, hfill, rfl⟩⟩
  | @unrestricted _ _ fault hopen hfill hrestrict hedit₁ hedit₂ =>
    exact .inr ⟨_, rfl, .begun hgrown hplace List.prefix_rfl hedit₂ ⟨2, fault, hrestrict, rfl⟩⟩
  | whole hopen hfill hrestrict hedit₁ hedit₂ hedit₃ => exact .inl ⟨rfl, hedit₃⟩

/-- Where the file cannot be written, it is not even opened. -/
theorem runAll_writeSteps_of_not_writable (f : InstallFile) (faults : StepFaults)
    (h : ¬ ∃ place, fs.Writable f.path place) :
    ∃ cause, (faults.Reports cause ∨ fs.openTruncated f.path f.mode = .error cause) ∧
      InstallStep.runAll faults f.writeSteps fs = (fs, .error (.write f.path cause)) ∧
      InstallStep.states faults f.writeSteps fs = [fs] := by
  cases hopen : fs.openTruncated f.path f.mode with
  | ok result => exact absurd ⟨_, FileSystem.writable_of_openTruncated hopen⟩ h
  | error cause =>
    cases hfault : faults 0 with
    | none =>
      refine ⟨cause, .inr rfl, ?_, ?_⟩
      · simp only [writeSteps, InstallStep.runAll, hfault, InstallStep.run, InstallStep.attempt,
          hopen]
      · simp only [writeSteps, InstallStep.states, hfault, InstallStep.run, InstallStep.attempt,
          hopen]
    | some fault =>
      refine ⟨fault.cause, .inl ⟨0, fault, hfault, rfl⟩, ?_, ?_⟩
      · simp only [writeSteps, InstallStep.runAll, hfault]
        rfl
      · simp only [writeSteps, InstallStep.states, hfault]
        rfl

/-- A run of the steps of one file installs it, or the file is refused. -/
theorem runAll_steps_cases (f : InstallFile) (faults : StepFaults) (fs : FileSystem) :
    (∃ fs₁ fs₂ place, fs.GrownOutside ∅ fs₁ ∧ fs₁.Writable f.path place ∧
      fs₁.Edit place (some f.node) fs₂ ∧
      InstallStep.runAll faults f.steps fs = (fs₂, .ok ())) ∨
    ∃ fs' e, f.Refused faults fs fs' e ∧
      InstallStep.runAll faults f.steps fs = (fs', .error e) := by
  rw [steps_eq]
  obtain ⟨fs₁, hgrown, hplain, hmade⟩ | ⟨fs', e, hrefused, hmade⟩ :=
    f.runAll_directorySteps faults fs
  · rw [InstallStep.runAll_append_of_ok hmade]
    by_cases hwritable : ∃ place, fs₁.Writable f.path place
    · obtain ⟨place, hplace⟩ := hwritable
      obtain ⟨states, fs₂, result, -, hrun, hwrite⟩ := f.exists_writeRun _ hplace
      rw [hrun]
      rcases hwrite.cases hgrown hplain hplace with ⟨rfl, hedit⟩ | ⟨e, rfl, hrefused⟩
      · exact .inl ⟨fs₁, fs₂, place, hgrown, hplace, hedit, rfl⟩
      · exact .inr ⟨fs₂, e, hrefused.of_after, rfl⟩
    · obtain ⟨cause, hreason, hrun, -⟩ := f.runAll_writeSteps_of_not_writable _ hwritable
      exact .inr ⟨fs₁, _, .opening hgrown hplain (hreason.imp_left StepFaults.Reports.of_after),
        hrun⟩
  · exact .inr ⟨fs', e, hrefused, InstallStep.runAll_append_of_error hmade _⟩

theorem runAll_steps_of_plain (f : InstallFile) (hplain : f.directorySteps = [])
    (h : fs.Writable f.path place) :
    ∃ fs', InstallStep.runAll StepFaults.none f.steps fs = (fs', .ok ()) ∧
      fs.Edit place (some f.node) fs' := by
  obtain ⟨states, fs', result, -, hrun, hwrite⟩ := f.exists_writeRun StepFaults.none h
  rcases hwrite.cases (.refl ∅ fs) (fun _ => rfl) h with ⟨rfl, hedit⟩ | ⟨e, rfl, hrefused⟩
  · refine ⟨fs', ?_, hedit⟩
    rw [steps_eq, hplain]
    exact hrun
  · exact absurd ⟨place, h⟩ (hrefused.not_writable hplain)

end InstallFile

/-! ### The steps of several files -/

/-- Some files are installed one after the other. -/
inductive Installs : FileSystem → List InstallFile → FileSystem → Prop
  | nil (fs : FileSystem) : Installs fs [] fs
  | cons {f : InstallFile} {files : List InstallFile} {fs fs₁ fs₂ fs' : FileSystem}
      {place : Location} (hdirectory : fs.GrownOutside ∅ fs₁) (hplace : fs₁.Writable f.path place)
      (hedit : fs₁.Edit place (some f.node) fs₂) (hrest : Installs fs₂ files fs') :
      Installs fs (f :: files) fs'

/-- The places that the paths of some files lead to. -/
def placesOf (fs : FileSystem) (files : List InstallFile) : Set Location :=
  {place | ∃ f ∈ files, fs.locate f.path = .ok place}

namespace Installs

variable {files before after : List InstallFile} {f : InstallFile}

/-- Outside the places of the files, only directories are new. -/
theorem grownOutside (h : Installs fs files fs') :
    fs.GrownOutside (placesOf fs' files) fs' := by
  induction h with
  | nil fs => exact .refl _ fs
  | @cons f files fs fs₁ fs₂ fs' place hdirectory hplace hedit hrest ih =>
    have hput : fs₁.GrownOutside {place} fs₂ := .of_edit hedit rfl hplace.not_directory
    have hlocate : fs'.locate f.path = .ok place :=
      ih.locate_eq_ok (hput.locate_eq_ok hplace.locate_eq)
    have hmem : ({place} : Set Location) ⊆ placesOf fs' (f :: files) := by
      rintro _ rfl
      exact ⟨f, List.mem_cons_self, hlocate⟩
    have hsubset : placesOf fs' files ⊆ placesOf fs' (f :: files) := by
      rintro p ⟨g, hg, hp⟩
      exact ⟨g, List.mem_cons_of_mem f hg, hp⟩
    exact ((hdirectory.mono (Set.empty_subset _)).trans (hput.mono hmem)).trans (ih.mono hsubset)

/-- A file is in its place, unless a later one has taken the place. -/
theorem node?_eq (h : Installs fs (before ++ f :: after) fs') :
    ∃ place, fs'.locate f.path = .ok place ∧
      (place ∉ placesOf fs' after → fs'.node? place = some f.node) := by
  induction before generalizing fs with
  | nil =>
    cases h with
    | @cons _ _ _ fs₁ fs₂ _ place hdirectory hplace hedit hrest =>
      have hput : fs₁.GrownOutside {place} fs₂ := .of_edit hedit rfl hplace.not_directory
      have hgrown := hrest.grownOutside
      refine ⟨place, hgrown.locate_eq_ok (hput.locate_eq_ok hplace.locate_eq), fun hlast => ?_⟩
      exact (hgrown.file_iff hlast).mpr hedit.node?_self
  | cons g before ih =>
    cases h with
    | cons hdirectory hplace hedit hrest => exact ih hrest

theorem no_slash (h : Installs fs files fs') (hf : f ∈ files) :
    Path.endsWithSlash f.path = false := by
  induction h with
  | nil => simp at hf
  | cons hdirectory hplace hedit hrest ih =>
    rcases List.mem_cons.mp hf with rfl | hf
    · exact hplace.no_slash
    · exact ih hf

end Installs

/-- Files that need no directories and can all be written get installed, even where two of them
share a place, if no step breaks. -/
theorem runAll_of_plain {files : List InstallFile} (hplain : ∀ f ∈ files, f.directorySteps = [])
    (h : ∀ f ∈ files, ∃ place, fs.Writable f.path place) :
    ∃ fs', InstallStep.runAll StepFaults.none (files.flatMap InstallFile.steps) fs =
      (fs', .ok ()) := by
  induction files generalizing fs with
  | nil => exact ⟨fs, rfl⟩
  | cons f files ih =>
    obtain ⟨hf, hfiles⟩ := List.forall_mem_cons.mp h
    obtain ⟨place, hplace⟩ := hf
    obtain ⟨fs₁, hrun, hedit⟩ := f.runAll_steps_of_plain (hplain f List.mem_cons_self) hplace
    have hsame : fs.SameOutside {place} fs₁ :=
      .of_edit hedit rfl hplace.not_directory (by simp [InstallFile.node])
    rw [List.flatMap_cons, InstallStep.runAll_append_of_ok hrun]
    refine ih (fun g hg => hplain g (List.mem_cons_of_mem f hg)) fun g hg => ?_
    exact (hfiles g hg).imp fun _ => hsame.writable

/-- A run of the steps of some files installs them all, or it stops at one that is refused, with
those before it installed. -/
theorem installation_cases (files : List InstallFile) (faults : StepFaults) (fs : FileSystem) :
    (∃ fs', InstallStep.runAll faults (files.flatMap InstallFile.steps) fs = (fs', .ok ()) ∧
      Installs fs files fs') ∨
    ∃ written refused pending fs₁ fs' e, files = written ++ refused :: pending ∧
      Installs fs written fs₁ ∧ refused.Refused faults fs₁ fs' e ∧
      InstallStep.runAll faults (files.flatMap InstallFile.steps) fs = (fs', .error e) := by
  induction files generalizing fs faults with
  | nil => exact .inl ⟨fs, rfl, .nil fs⟩
  | cons f files ih =>
    rw [List.flatMap_cons]
    obtain ⟨fs₁, fs₂, place, hgrown, hplace, hedit, hrun⟩ | ⟨fs', e, hrefused, hrun⟩ :=
      f.runAll_steps_cases faults fs
    · rw [InstallStep.runAll_append_of_ok hrun]
      obtain ⟨fs', hrest, hinstalls⟩ | ⟨written, refused, pending, fs₃, fs', e, rfl, hinstalls,
        hrefused, hrest⟩ := ih (faults.after f.steps.length) fs₂
      · exact .inl ⟨fs', hrest, .cons hgrown hplace hedit hinstalls⟩
      · exact .inr ⟨f :: written, refused, pending, fs₃, fs', e, rfl,
          .cons hgrown hplace hedit hinstalls, hrefused.of_after, hrest⟩
    · exact .inr ⟨[], f, files, fs, fs', e, rfl, .nil fs, hrefused,
        InstallStep.runAll_append_of_error hrun _⟩

end GatewayAgent
