import GatewayAgent.Proofs.History
import GatewayAgent.Proofs.UserConfig.Writer

/-!
# Two writes of one file

Two calls write the file of one user at the same time, and their turns come in any order. A turn is
one step of a write, but for the staging: opening the staging file and filling it is one turn
(`WriteJob.turn`), so no file is open between two turns.

The calls share the staging file. A reader of the target sees what was there at first or the whole
text of one of the two writers, in any order of the turns. But both calls succeed, each with its own
text published, if and only if they are never both between their staging and their publication
(`both_publish_iff_no_clash`). When both have staged a text, the first of them to publish puts the
text that was staged last, and the other finds nothing to publish. Where the calls take single
steps, a reader can even find the file empty: one call publishes the staging file that the other has
just opened (`opened_staging_published`).

The two halves of the equivalence are one invariant each: a run without a clash stays `Sound`, and
after a clash the run is `Doomed`. Both rest on `Underway`, which holds in every run, and on
`Advance`, which lists what the next turn of a write can be.
-/

namespace GatewayAgent

/-! ### Phases -/

deriving instance DecidableEq for WritePhase

theorem WriteJob.outcome?_eq_some_iff {job : WriteJob} {outcome : Except SystemError Unit} :
    job.outcome? = some outcome ↔ job.phase = .done outcome := by
  rw [outcome?]
  cases job.phase <;> simp

/-! ### Turns -/

/-- How many turns a write may still take. Its staging takes two steps, but one turn. -/
def WritePhase.turnsLeft (phase : WritePhase) : Nat :=
  if 3 ≤ phase.remaining then phase.remaining - 1 else phase.remaining

namespace WriteJob

variable {fs : FileSystem} {job : WriteJob}

/-- Takes a write one turn further: its next step, or the two of its staging. -/
def turn (fs : FileSystem) (job : WriteJob) : FileSystem × WriteJob :=
  match job.phase with
  | .stage => steps 2 fs job
  | _ => step fs job

theorem turn_of_stage (hphase : job.phase = .stage) : turn fs job = steps 2 fs job := by
  rw [turn, hphase]

/-- Every turn but that of the staging is a single step. -/
theorem turn_of_ne_stage (hphase : job.phase ≠ .stage) : turn fs job = step fs job := by
  unfold turn
  split
  · next hstage => exact absurd hstage hphase
  · rfl

/-- What a turn does is done by one or two steps. -/
theorem exists_turn_eq_steps (fs : FileSystem) (job : WriteJob) :
    ∃ n, turn fs job = steps n fs job := by
  by_cases hphase : job.phase = .stage
  · exact ⟨2, turn_of_stage hphase⟩
  · exact ⟨1, turn_of_ne_stage hphase⟩

/-- A turn brings a write that is not done closer to its end. -/
theorem turnsLeft_turn_le (fs : FileSystem) (job : WriteJob) :
    (turn fs job).2.phase.turnsLeft ≤ job.phase.turnsLeft - 1 := by
  rw [WritePhase.turnsLeft, WritePhase.turnsLeft]
  by_cases hphase : job.phase = .stage
  · have hle := remaining_steps_le 2 fs job
    have hthree := WritePhase.remaining_eq_three_iff.mpr hphase
    rw [turn_of_stage hphase]
    split <;> split <;> omega
  · have hle := remaining_step_le fs job
    have hne := mt WritePhase.remaining_eq_three_iff.mp hphase
    rw [turn_of_ne_stage hphase]
    split <;> split <;> omega

end WriteJob

namespace Interleaving

/-! ### Runs of two writers -/

/-- One of the two writers. -/
inductive Writer where
  | left
  | right
  deriving DecidableEq, Repr

/-- The writer that is not this one. -/
def Writer.other : Writer → Writer
  | .left => .right
  | .right => .left

/-- There is only one other writer. -/
theorem Writer.eq_other_of_ne {w w' : Writer} (h : w' ≠ w) : w' = w.other := by
  cases w <;> cases w' <;> first | rfl | exact absurd rfl h

theorem Writer.other_ne (w : Writer) : w.other ≠ w := by
  cases w <;> decide

theorem Writer.other_other (w : Writer) : w.other.other = w := by
  cases w <;> rfl

/-- The files of a host, and two writes on their way. -/
structure Shared where
  files : FileSystem
  job : Writer → WriteJob

namespace Shared

/-- Two writes to one path at their beginning, each with the text that it has rendered. -/
def begin (files : FileSystem) (path : String) (text : Writer → Bytes) : Shared :=
  ⟨files, fun w => { path, content := text w }⟩

/-- A writer has come to a phase and left these files behind. -/
def advance (s : Shared) (w : Writer) (files : FileSystem) (phase : WritePhase) : Shared :=
  ⟨files, Function.update s.job w { s.job w with phase }⟩

/-- A writer takes its next turn. -/
def step (s : Shared) (w : Writer) : Shared :=
  let (files, job) := WriteJob.turn s.files (s.job w)
  ⟨files, Function.update s.job w job⟩

/-- What a run leaves, in which the writers take their turns in the given order. -/
def after (s : Shared) (run : List Writer) : Shared := run.foldl step s

/-- Both writers have staged their text, and none has published it. -/
def Clash (s : Shared) : Prop := ∀ w, (s.job w).phase = .publish

instance (s : Shared) : Decidable s.Clash :=
  decidable_of_iff ((s.job .left).phase = .publish ∧ (s.job .right).phase = .publish)
    ⟨fun h w => by cases w; exacts [h.1, h.2], fun h => ⟨h .left, h .right⟩⟩

end Shared

/-- A turn of a writer with the state that it found. -/
structure Move where
  writer : Writer
  before : Shared

namespace Move

/-- The state that the turn leaves. -/
def after (m : Move) : Shared := m.before.step m.writer

/-- The turn is a publication that succeeds. -/
structure Publishes (m : Move) : Prop where
  staged : (m.before.job m.writer).phase = .publish
  done : (m.after.job m.writer).phase = .done (.ok ())

end Move

/-- The turns of a run. -/
def Shared.moves (s : Shared) (run : List Writer) : List Move := trace step Move.mk s run

namespace Shared

variable {s : Shared} {w w' : Writer} {run : List Writer} {files : FileSystem} {phase : WritePhase}

@[simp]
theorem files_begin (files : FileSystem) (path : String) (text : Writer → Bytes) :
    (begin files path text).files = files := rfl

@[simp]
theorem job_begin (files : FileSystem) (path : String) (text : Writer → Bytes) (w : Writer) :
    (begin files path text).job w = { path, content := text w } := rfl

@[simp]
theorem after_nil (s : Shared) : s.after [] = s := rfl

/-- The last turn of a run is taken in the state that the rest of the run leaves. -/
theorem after_snoc : s.after (run ++ [w]) = (s.after run).step w := by
  rw [after, List.foldl_append]
  rfl

/-- The last turn goes on record with the state that it found. -/
theorem moves_snoc : s.moves (run ++ [w]) = s.moves run ++ [⟨w, s.after run⟩] := trace_snoc

/-- Every turn of a run finds what some run leaves. -/
theorem exists_before_of_mem_moves {m : Move} (h : m ∈ s.moves run) :
    ∃ run', m.before = s.after run' := by
  induction run using List.reverseRecOn with
  | nil => exact absurd h List.not_mem_nil
  | append_singleton run w ih =>
    rw [moves_snoc, List.mem_append, List.mem_singleton] at h
    rcases h with h | rfl
    · exact ih h
    · exact ⟨run, rfl⟩

@[simp]
theorem files_advance : (s.advance w files phase).files = files := rfl

@[simp]
theorem job_advance_self : (s.advance w files phase).job w = { s.job w with phase } :=
  Function.update_self ..

theorem job_advance_of_ne (h : w' ≠ w) : (s.advance w files phase).job w' = s.job w' :=
  Function.update_of_ne h ..

@[simp]
theorem path_advance : ((s.advance w files phase).job w').path = (s.job w').path := by
  by_cases h : w' = w
  · subst h
    rw [job_advance_self]
  · rw [job_advance_of_ne h]

@[simp]
theorem content_advance : ((s.advance w files phase).job w').content = (s.job w').content := by
  by_cases h : w' = w
  · subst h
    rw [job_advance_self]
  · rw [job_advance_of_ne h]

/-- A turn is known when it is known what it does to the files and to the phase. -/
theorem step_eq_advance (h : WriteJob.turn s.files (s.job w) = (files, { s.job w with phase })) :
    s.step w = s.advance w files phase := by
  rw [step, h]
  rfl

theorem files_step : (s.step w).files = (WriteJob.turn s.files (s.job w)).1 := rfl

theorem job_step_self : (s.step w).job w = (WriteJob.turn s.files (s.job w)).2 :=
  Function.update_self ..

theorem job_step_of_ne (h : w' ≠ w) : (s.step w).job w' = s.job w' :=
  Function.update_of_ne h ..

/-- Only the writer whose turn it is comes closer to its end. -/
theorem turnsLeft_after_le (s : Shared) (run : List Writer) (w : Writer) :
    ((s.after run).job w).phase.turnsLeft ≤ (s.job w).phase.turnsLeft - run.count w := by
  induction run using List.reverseRecOn with
  | nil => exact le_rfl
  | append_singleton run w' ih =>
    rw [after_snoc, List.count_append, List.count_singleton]
    by_cases hw : w = w'
    · subst hw
      have hle := WriteJob.turnsLeft_turn_le (s.after run).files ((s.after run).job w)
      rw [job_step_self]
      simp only [beq_self_eq_true, if_true]
      omega
    · rw [job_step_of_ne hw]
      simpa [Ne.symm hw] using ih

/-- After four turns of a writer, its call has returned. -/
theorem exists_outcome (s : Shared) {run : List Writer} {w : Writer} (hrun : 4 ≤ run.count w) :
    ∃ outcome, ((s.after run).job w).phase = .done outcome := by
  have hle := s.turnsLeft_after_le run w
  have hfour : (s.job w).phase.turnsLeft ≤ 4 := by
    have hfive := (s.job w).phase.remaining_le_five
    rw [WritePhase.turnsLeft]
    split <;> omega
  refine WritePhase.remaining_eq_zero_iff.mp ?_
  have hnone : ((s.after run).job w).phase.turnsLeft = 0 := by omega
  rw [WritePhase.turnsLeft] at hnone
  split at hnone <;> omega

/-- The turns that a writer takes alone are steps of its write. -/
theorem exists_after_replicate (s : Shared) (w : Writer) (n : Nat) :
    ∃ m, (s.after (List.replicate n w)).files = (WriteJob.steps m s.files (s.job w)).1 ∧
      (s.after (List.replicate n w)).job w = (WriteJob.steps m s.files (s.job w)).2 := by
  induction n with
  | zero => exact ⟨0, rfl, rfl⟩
  | succ n ih =>
    obtain ⟨m, hfiles, hjob⟩ := ih
    obtain ⟨k, hturn⟩ := WriteJob.exists_turn_eq_steps (s.after (List.replicate n w)).files
      ((s.after (List.replicate n w)).job w)
    rw [List.replicate_succ', after_snoc, files_step, job_step_self, hturn, hfiles, hjob,
      ← WriteJob.steps_add]
    exact ⟨m + k, rfl, rfl⟩

end Shared

/-- A call by itself is the run in which one writer takes all turns. -/
theorem writeUserConfig_eq_after {u : UserUpdate} {rendered : String}
    (hrender : u.render = .ok rendered) (fs : FileSystem) (path : String) {w : Writer}
    {text : Writer → Bytes} (htext : text w = Text.encode rendered) :
    writeUserConfig fs path u =
      let s := (Shared.begin fs path text).after (List.replicate 4 w)
      (s.files,
        match (s.job w).outcome? with
        | some (.error e) => .error (.io path e)
        | _ => .ok ()) := by
  obtain ⟨n, hfiles, hjob⟩ := (Shared.begin fs path text).exists_after_replicate w 4
  obtain ⟨outcome, hdone⟩ :=
    (Shared.begin fs path text).exists_outcome (List.count_replicate_self (n := 4) (a := w)).ge
  rw [Shared.job_begin, Shared.files_begin, htext] at hfiles hjob
  rw [hjob] at hdone
  obtain ⟨outcome', hdone'⟩ :=
    WriteJob.exists_outcome_steps_five fs { path, content := Text.encode rendered }
  rw [WriteJob.steps_eq_of_done hdone hdone'] at hfiles hjob
  rw [writeUserConfig, hrender]
  dsimp only
  rw [hfiles, hjob]
  split <;> simp only [*]

/-! ### What the next turn of a write can be -/

/-- What the next turn of a write does to the files and to its phase, where a file can be written
at each of the three places. -/
inductive Advance (fs : FileSystem) (job : WriteJob) (target backup staging : Location) :
    FileSystem → WritePhase → Prop
  /-- The write sees whether it has to keep a file. -/
  | look {phase : WritePhase} (hphase : job.phase = .check)
      (hnext : phase = .backup ∧ fs.node? target ≠ none ∨ phase = .stage) :
      Advance fs job target backup staging fs phase
  | keep {fs' : FileSystem} {content : Bytes} {mode : Nat} (hphase : job.phase = .backup)
      (hedit : fs.Edit backup (some (.file content mode)) fs') :
      Advance fs job target backup staging fs' .stage
  | stage {fs' : FileSystem} {mode : Nat} (hphase : job.phase = .stage)
      (hedit : fs.Edit staging (some (.file job.content mode)) fs') :
      Advance fs job target backup staging fs' .publish
  | publish {fs₁ fs' : FileSystem} {content : Bytes} {mode : Nat} (hphase : job.phase = .publish)
      (hstaging : fs.node? staging = some (.file content mode)) (hdrop : fs.Edit staging none fs₁)
      (hput : fs₁.Edit target (some (.file content mode)) fs') :
      Advance fs job target backup staging fs' (.done (.ok ()))
  /-- Somebody else has taken the staging file away. -/
  | miss (hphase : job.phase = .publish) (hstaging : fs.node? staging = none) :
      Advance fs job target backup staging fs (.done (.error .notFound))
  | rest {outcome : Except SystemError Unit} (hphase : job.phase = .done outcome) :
      Advance fs job target backup staging fs (.done outcome)

/-- Where a file can be written at each of the three places, the next turn is one of those listed,
if the write has found something to keep and has no file open. -/
theorem exists_advance {fs : FileSystem} {job : WriteJob} {target backup staging : Location}
    (h : Ready fs job.path target backup staging)
    (hkept : job.phase = .backup → fs.node? target ≠ none)
    (hclosed : ∀ place, job.phase ≠ .fill place) :
    ∃ fs' phase, WriteJob.turn fs job = (fs', { job with phase }) ∧
      Advance fs job target backup staging fs' phase := by
  by_cases hstage : job.phase = .stage
  · obtain ⟨fs', mode, hsteps, hedit⟩ := WriteJob.steps_stage h.staging hstage 0
    exact ⟨fs', _, (WriteJob.turn_of_stage hstage).trans hsteps, .stage hstage hedit⟩
  rw [WriteJob.turn_of_ne_stage hstage]
  cases hphase : job.phase with
  | check =>
    refine ⟨_, _, WriteJob.step_check h hphase, .look hphase ?_⟩
    cases fs.node? target with
    | none => exact .inr rfl
    | some n => exact .inl ⟨rfl, Option.some_ne_none n⟩
  | backup =>
    obtain ⟨n, hn⟩ := Option.ne_none_iff_exists'.mp (hkept hphase)
    cases n with
    | directory => exact absurd hn h.target.not_directory
    | file content mode =>
      obtain ⟨fs', hstep, hedit⟩ := WriteJob.step_backup h hphase hn
      exact ⟨fs', _, hstep, .keep hphase hedit⟩
  | stage => exact absurd hphase hstage
  | fill place => exact absurd hphase (hclosed place)
  | publish =>
    cases hn : fs.node? staging with
    | none => exact ⟨fs, _, WriteJob.step_publish_of_none h hphase hn, .miss hphase hn⟩
    | some n =>
      cases n with
      | directory => exact absurd hn h.staging.not_directory
      | file content mode =>
        obtain ⟨fs₁, fs', hstep, hdrop, hput⟩ := WriteJob.step_publish h hphase hn
        exact ⟨fs', _, hstep, .publish hphase hn hdrop hput⟩
  | done outcome =>
    refine ⟨fs, .done outcome, ?_, .rest hphase⟩
    rw [WriteJob.step_of_done hphase, ← hphase]

namespace Advance

variable {fs fs' : FileSystem} {job : WriteJob} {target backup staging : Location}
  {phase : WritePhase}

/-- No turn ends with the staging file open. -/
theorem ne_fill (h : Advance fs job target backup staging fs' phase) (place : Location) :
    phase ≠ .fill place := by
  cases h with
  | look _ hnext => rcases hnext with ⟨rfl, -⟩ | rfl <;> simp
  | keep _ _ | stage _ _ | publish _ _ _ _ | miss _ _ | rest _ => simp

/-- A publication moves the staging file, if it is there. -/
theorem of_publish (h : Advance fs job target backup staging fs' phase) (hne : target ≠ staging)
    (hphase : job.phase = .publish) :
    (∃ content mode, fs.node? staging = some (.file content mode) ∧ phase = .done (.ok ()) ∧
      fs'.node? target = some (.file content mode) ∧ fs'.node? staging = none) ∨
    (fs.node? staging = none ∧ phase = .done (.error .notFound)) := by
  cases h with
  | publish hphase' hstaging hdrop hput =>
    refine .inl ⟨_, _, hstaging, rfl, hput.node?_self, ?_⟩
    rw [hput.node?_of_ne hne.symm, hdrop.node?_self]
  | miss hphase' hstaging => exact .inr ⟨hstaging, rfl⟩
  | look hphase' _ | keep hphase' _ | stage hphase' _ | rest hphase' =>
    exact absurd (hphase.symm.trans hphase') (by simp)

/-- A write that is done stays as it is. -/
theorem of_done (h : Advance fs job target backup staging fs' phase)
    {outcome : Except SystemError Unit} (hphase : job.phase = .done outcome) :
    fs' = fs ∧ phase = .done outcome := by
  cases h with
  | rest hphase' => exact ⟨rfl, hphase'.symm.trans hphase⟩
  | look hphase' _ | keep hphase' _ | stage hphase' _ | publish hphase' _ _ _ | miss hphase' _ =>
    exact absurd (hphase.symm.trans hphase') (by simp)

/-- The staging file is touched only by a write that stages or publishes. -/
theorem staging_eq (h : Advance fs job target backup staging fs' phase) (hne : backup ≠ staging)
    (hphase : phase ≠ .publish) (hphase' : job.phase ≠ .publish) :
    fs'.node? staging = fs.node? staging := by
  cases h with
  | keep _ hedit => exact hedit.node?_of_ne hne.symm
  | stage _ hedit => exact absurd rfl hphase
  | publish hpublish _ _ _ => exact absurd hpublish hphase'
  | look _ _ | miss _ _ | rest _ => rfl

end Advance

/-! ### What holds in every run -/

section Run

variable {fs : FileSystem} {path : String} {text : Writer → Bytes}
  {target backup staging : Location} {s : Shared} {w : Writer}

/-- At a place is the whole text of one of the writers. -/
def Whole (text : Writer → Bytes) (n : Option FileNode) : Prop :=
  ∃ w mode, n = some (.file (text w) mode)

/-- What two writes that began with `fs` have come to, in whatever order they took their turns. -/
structure Underway (fs : FileSystem) (path : String) (text : Writer → Bytes)
    (target backup staging : Location) (s : Shared) : Prop where
  ready : Ready s.files path target backup staging
  path_eq : ∀ w, (s.job w).path = path
  content_eq : ∀ w, (s.job w).content = text w
  closed : ∀ w place, (s.job w).phase ≠ .fill place
  kept : ∀ w, (s.job w).phase = .backup → s.files.node? target ≠ none
  whole : s.files.node? target = fs.node? target ∨ Whole text (s.files.node? target)
  staged : ∀ w, (s.job w).phase = .publish →
    s.files.node? staging = none ∨ Whole text (s.files.node? staging)

namespace Underway

/-- In every run, the next turn of a writer is one of those listed. -/
theorem exists_advance (h : Underway fs path text target backup staging s) (w : Writer) :
    ∃ files phase, s.step w = s.advance w files phase ∧
      Advance s.files (s.job w) target backup staging files phase := by
  have hready : Ready s.files (s.job w).path target backup staging := h.path_eq w ▸ h.ready
  obtain ⟨files, phase, hstep, hadvance⟩ :=
    Interleaving.exists_advance hready (h.kept w) (h.closed w)
  exact ⟨files, phase, Shared.step_eq_advance hstep, hadvance⟩

/-- A turn that leaves the target as it was or with a whole text, and the staging file as it was,
gone or with a whole text. -/
theorem of_advance (h : Underway fs path text target backup staging s) {files : FileSystem}
    {phase : WritePhase} (hready : Ready files path target backup staging)
    (hclosed : ∀ place, phase ≠ .fill place)
    (hkept : phase = .backup → files.node? target ≠ none)
    (htarget : files.node? target = s.files.node? target ∨ Whole text (files.node? target))
    (hstaging : files.node? staging = s.files.node? staging ∧ phase ≠ .publish ∨
      files.node? staging = none ∨ Whole text (files.node? staging)) :
    Underway fs path text target backup staging (s.advance w files phase) where
  ready := hready
  path_eq w' := by rw [Shared.path_advance, h.path_eq]
  content_eq w' := by rw [Shared.content_advance, h.content_eq]
  closed w' := by
    by_cases hw : w' = w
    · subst hw
      rw [Shared.job_advance_self]
      exact hclosed
    · rw [Shared.job_advance_of_ne hw]
      exact h.closed w'
  kept w' hphase := by
    by_cases hw : w' = w
    · subst hw
      rw [Shared.job_advance_self] at hphase
      exact hkept hphase
    · rw [Shared.job_advance_of_ne hw] at hphase
      rcases htarget with heq | ⟨writer, mode, heq⟩
      · exact fun hnone => h.kept w' hphase (heq ▸ hnone)
      · exact fun hnone => Option.some_ne_none _ (heq.symm.trans hnone)
  whole := by
    rcases htarget with heq | hwhole
    · rw [Shared.files_advance, heq]
      exact h.whole
    · exact .inr hwhole
  staged w' hphase := by
    rcases hstaging with ⟨heq, hne⟩ | hstaging
    · have hw : w' ≠ w := by
        rintro rfl
        rw [Shared.job_advance_self] at hphase
        exact hne hphase
      rw [Shared.job_advance_of_ne hw] at hphase
      rw [Shared.files_advance, heq]
      exact h.staged w' hphase
    · exact hstaging

/-- Every turn of a writer keeps what holds in every run. -/
theorem step (h : Underway fs path text target backup staging s) (w : Writer) :
    Underway fs path text target backup staging (s.step w) := by
  obtain ⟨hts, htb, hbs⟩ := h.ready.ne
  obtain ⟨files, phase, hstep, hadvance⟩ := h.exists_advance w
  have hclosed := hadvance.ne_fill
  rw [hstep]
  cases hadvance with
  | look hphase hnext =>
    refine h.of_advance h.ready hclosed ?_ (.inl rfl) (.inl ⟨rfl, ?_⟩)
    · rintro rfl
      exact (hnext.resolve_right (by simp)).2
    · rcases hnext with ⟨rfl, -⟩ | rfl <;> simp
  | keep hphase hedit =>
    exact h.of_advance (h.ready.of_edit hedit h.ready.backup.not_directory (by simp)) hclosed
      (by simp) (.inl (hedit.node?_of_ne htb)) (.inl ⟨hedit.node?_of_ne hbs.symm, by simp⟩)
  | stage hphase hedit =>
    rw [h.content_eq] at hedit
    exact h.of_advance (h.ready.of_edit hedit h.ready.staging.not_directory (by simp)) hclosed
      (by simp) (.inl (hedit.node?_of_ne hts)) (.inr (.inr ⟨w, _, hedit.node?_self⟩))
  | publish hphase hstaging hdrop hput =>
    have hdropped := h.ready.of_edit hdrop h.ready.staging.not_directory (by simp)
    refine h.of_advance (hdropped.of_edit hput hdropped.target.not_directory (by simp)) hclosed
      (by simp) (.inr ?_) (.inr (.inl ?_))
    · -- What is published is what was staged.
      rw [hput.node?_self, ← hstaging]
      exact (h.staged w hphase).resolve_left (by simp [hstaging])
    · rw [hput.node?_of_ne hts.symm, hdrop.node?_self]
  | miss hphase hstaging =>
    exact h.of_advance h.ready hclosed (by simp) (.inl rfl) (.inl ⟨rfl, by simp⟩)
  | rest hphase => exact h.of_advance h.ready hclosed (by simp) (.inl rfl) (.inl ⟨rfl, by simp⟩)

/-- A reader sees what was there at first, or the whole text of a writer. -/
theorem read (h : Underway fs path text target backup staging s)
    (hfs : fs.Writable path target) :
    s.files.read path = fs.read path ∨ ∃ w, s.files.read path = .ok (text w) := by
  rw [FileSystem.read_of_writable h.ready.target, FileSystem.read_of_writable hfs]
  rcases h.whole with heq | ⟨w, mode, heq⟩
  · rw [heq]
    exact .inl rfl
  · rw [heq]
    exact .inr ⟨w, rfl⟩

end Underway

/-- In whatever order the turns come, what two writes have come to is as described. -/
theorem underway (h : Ready fs path target backup staging) (text : Writer → Bytes)
    (run : List Writer) :
    Underway fs path text target backup staging ((Shared.begin fs path text).after run) := by
  induction run using List.reverseRecOn with
  | nil => exact ⟨h, fun _ => rfl, fun _ => rfl, by simp, by simp, .inl rfl, by simp⟩
  | append_singleton run w ih =>
    rw [Shared.after_snoc]
    exact ih.step w

/-! ### Runs without a clash -/

/-- Two different writers that are about to publish clash. -/
theorem Shared.clash_of_ne {w' : Writer} (hne : w' ≠ w) (h : (s.job w).phase = .publish)
    (h' : (s.job w').phase = .publish) : s.Clash := by
  intro v
  by_cases hv : v = w
  · rw [hv]
    exact h
  · rw [Writer.eq_other_of_ne hv, ← Writer.eq_other_of_ne hne]
    exact h'

/-- The writers have not come in each other's way: what a writer has staged is still there, and
nobody has failed. -/
structure Sound (text : Writer → Bytes) (staging : Location) (s : Shared) : Prop where
  no_clash : ¬s.Clash
  staged : ∀ w, (s.job w).phase = .publish →
    ∃ mode, s.files.node? staging = some (.file (text w) mode)
  succeeded : ∀ w outcome, (s.job w).phase = .done outcome → outcome = .ok ()

namespace Sound

/-- A turn that does not lead to a clash keeps the writers out of each other's way. -/
theorem step (hsound : Sound text staging s) (h : Underway fs path text target backup staging s)
    (hclash : ¬(s.step w).Clash) : Sound text staging (s.step w) := by
  obtain ⟨hts, -, hbs⟩ := h.ready.ne
  obtain ⟨files, phase, hstep, hadvance⟩ := h.exists_advance w
  rw [hstep] at hclash ⊢
  refine ⟨hclash, fun w' hphase => ?_, fun w' outcome hphase => ?_⟩
  · by_cases hw : w' = w
    · subst hw
      rw [Shared.job_advance_self] at hphase
      obtain rfl : phase = .publish := hphase
      cases hadvance with
      | stage _ hedit =>
        rw [h.content_eq] at hedit
        exact ⟨_, hedit.node?_self⟩
      | look _ hnext => simp at hnext
    · -- The other writer has staged its text, so this one is neither about to publish nor was it.
      have hphase' : (s.job w').phase = .publish := by
        rwa [Shared.job_advance_of_ne hw] at hphase
      obtain ⟨mode, hmode⟩ := hsound.staged w' hphase'
      refine ⟨mode, (hadvance.staging_eq hbs ?_ ?_).trans hmode⟩
      · rintro rfl
        exact hclash (Shared.clash_of_ne hw (by rw [Shared.job_advance_self]) hphase)
      · exact fun hpublish => hsound.no_clash (Shared.clash_of_ne hw hpublish hphase')
  · by_cases hw : w' = w
    · subst hw
      rw [Shared.job_advance_self] at hphase
      obtain rfl : phase = .done outcome := hphase
      cases hadvance with
      | look _ hnext => simp at hnext
      | publish _ _ _ _ => rfl
      | miss hpublish hnone =>
        obtain ⟨mode, hmode⟩ := hsound.staged w' hpublish
        exact absurd (hmode.symm.trans hnone) (Option.some_ne_none _)
      | rest hdone => exact hsound.succeeded w' outcome hdone
    · rw [Shared.job_advance_of_ne hw] at hphase
      exact hsound.succeeded w' outcome hphase

/-- A writer that publishes finds its own text. -/
theorem publishes (hsound : Sound text staging s)
    (h : Underway fs path text target backup staging s) (hphase : (s.job w).phase = .publish) :
    (Move.mk w s).Publishes ∧ (Move.mk w s).after.files.read path = .ok (text w) := by
  obtain ⟨files, phase, hstep, hadvance⟩ := h.exists_advance w
  obtain ⟨mode, hmode⟩ := hsound.staged w hphase
  have hafter : (Move.mk w s).after = s.advance w files phase := hstep
  obtain ⟨content, mode', hcontent, rfl, htarget, -⟩ | ⟨hnone, -⟩ :=
    hadvance.of_publish h.ready.ne.1 hphase
  · obtain ⟨rfl, rfl⟩ : text w = content ∧ mode = mode' := by
      simpa using hmode.symm.trans hcontent
    refine ⟨⟨hphase, by rw [hafter, Shared.job_advance_self]⟩, ?_⟩
    have hready := (h.step w).ready
    rw [hstep] at hready
    rw [hafter, FileSystem.read_of_writable hready.target, Shared.files_advance, htarget]
  · exact absurd (hmode.symm.trans hnone) (Option.some_ne_none _)

end Sound

/-- A run without a clash keeps the writers out of each other's way. -/
theorem sound_after (h : Ready fs path target backup staging) (text : Writer → Bytes)
    {run : List Writer} (hrun : ∀ m ∈ (Shared.begin fs path text).moves run, ¬m.after.Clash) :
    Sound text staging ((Shared.begin fs path text).after run) := by
  induction run using List.reverseRecOn with
  | nil =>
    refine ⟨fun hclash => ?_, fun w hphase => ?_, fun w outcome hphase => ?_⟩
    · simpa using hclash .left
    · simp at hphase
    · simp at hphase
  | append_singleton run w ih =>
    rw [Shared.moves_snoc] at hrun
    rw [Shared.after_snoc]
    have hsound := ih fun m hm => hrun m (List.mem_append_left _ hm)
    exact hsound.step (underway h text run)
      (hrun _ (List.mem_append_right _ (List.mem_singleton_self _)))

/-- A writer has published its own text in one of the turns. -/
def PublishedOwn (moves : List Move) (path : String) (text : Writer → Bytes) (w : Writer) : Prop :=
  ∃ m ∈ moves, m.writer = w ∧ m.Publishes ∧ m.after.files.read path = .ok (text w)

/-- A publication stays on record. -/
theorem PublishedOwn.append {moves more : List Move} (h : PublishedOwn moves path text w) :
    PublishedOwn (moves ++ more) path text w := by
  obtain ⟨m, hm, hpublished⟩ := h
  exact ⟨m, List.mem_append_left more hm, hpublished⟩

/-- In a run without a clash, a call that has returned success has published its own text. -/
theorem publishedOwn_after (h : Ready fs path target backup staging) (text : Writer → Bytes)
    {run : List Writer} (hrun : ∀ m ∈ (Shared.begin fs path text).moves run, ¬m.after.Clash)
    {w : Writer} (hdone : (((Shared.begin fs path text).after run).job w).phase = .done (.ok ())) :
    PublishedOwn ((Shared.begin fs path text).moves run) path text w := by
  induction run using List.reverseRecOn with
  | nil => simp at hdone
  | append_singleton run w' ih =>
    rw [Shared.moves_snoc] at hrun ⊢
    rw [Shared.after_snoc] at hdone
    have hprefix := fun m hm => hrun m (List.mem_append_left _ hm)
    have hunder := underway h text run
    obtain ⟨files, phase, hstep, hadvance⟩ := hunder.exists_advance w'
    rw [hstep] at hdone
    by_cases hw : w = w'
    · subst hw
      rw [Shared.job_advance_self] at hdone
      obtain rfl : phase = .done (.ok ()) := hdone
      -- The writer returns with this step, or it had returned before.
      cases hadvance with
      | publish hphase _ _ _ =>
        exact ⟨_, List.mem_append_right _ (List.mem_singleton_self _), rfl,
          (sound_after h text hprefix).publishes hunder hphase⟩
      | rest hphase => exact (ih hprefix hphase).append
      | look _ hnext => simp at hnext
    · rw [Shared.job_advance_of_ne hw] at hdone
      exact (ih hprefix hdone).append

/-! ### Runs with a clash -/

/-- The writers have come in each other's way, and one of them fails. -/
inductive Doomed (staging : Location) (s : Shared) : Prop
  /-- Both are about to publish. -/
  | clash (h : s.Clash)
  /-- One is about to publish, but the other has published its text. -/
  | robbed (w : Writer) (hphase : (s.job w).phase = .publish)
      (hother : ∃ outcome, (s.job w.other).phase = .done outcome)
      (hstaging : s.files.node? staging = none)
  | failed (w : Writer) (e : SystemError) (hphase : (s.job w).phase = .done (.error e))

/-- Once the writers have come in each other's way, no turn saves both. -/
theorem Doomed.step (hdoomed : Doomed staging s)
    (h : Underway fs path text target backup staging s) (w : Writer) :
    Doomed staging (s.step w) := by
  obtain ⟨files, phase, hstep, hadvance⟩ := h.exists_advance w
  rw [hstep]
  cases hdoomed with
  | clash hclash =>
    -- Whoever publishes first takes the only staging file away.
    obtain ⟨content, mode, -, rfl, -, hstaging⟩ | ⟨-, rfl⟩ :=
      hadvance.of_publish h.ready.ne.1 (hclash w)
    · refine .robbed w.other ?_ ⟨.ok (), ?_⟩ hstaging
      · rw [Shared.job_advance_of_ne w.other_ne]
        exact hclash w.other
      · rw [w.other_other, Shared.job_advance_self]
    · exact .failed w .notFound (by rw [Shared.job_advance_self])
  | robbed v hphase hother hstaging =>
    obtain ⟨outcome, hdone⟩ := hother
    by_cases hw : w = v
    · subst hw
      obtain ⟨content, mode, hsome, -⟩ | ⟨-, rfl⟩ := hadvance.of_publish h.ready.ne.1 hphase
      · exact absurd (hsome.symm.trans hstaging) (Option.some_ne_none _)
      · exact .failed w .notFound (by rw [Shared.job_advance_self])
    · -- The other writer is done, so it will not stage a text again.
      obtain rfl := Writer.eq_other_of_ne hw
      obtain ⟨rfl, rfl⟩ := hadvance.of_done hdone
      refine .robbed v ?_ ⟨outcome, by rw [Shared.job_advance_self]⟩ hstaging
      rw [Shared.job_advance_of_ne (Ne.symm hw)]
      exact hphase
  | failed v e hphase =>
    refine .failed v e ?_
    by_cases hw : v = w
    · subst hw
      rw [Shared.job_advance_self]
      exact (hadvance.of_done hphase).2
    · rw [Shared.job_advance_of_ne hw]
      exact hphase

/-- After a clash one of the two calls fails, whatever turns follow. -/
theorem doomed_after (h : Ready fs path target backup staging) (text : Writer → Bytes)
    {run : List Writer} (hrun : ∃ m ∈ (Shared.begin fs path text).moves run, m.after.Clash) :
    Doomed staging ((Shared.begin fs path text).after run) := by
  induction run using List.reverseRecOn with
  | nil =>
    obtain ⟨m, hm, -⟩ := hrun
    exact absurd hm List.not_mem_nil
  | append_singleton run w ih =>
    obtain ⟨m, hm, hclash⟩ := hrun
    rw [Shared.after_snoc]
    rw [Shared.moves_snoc, List.mem_append, List.mem_singleton] at hm
    rcases hm with hm | rfl
    · exact (ih ⟨m, hm, hclash⟩).step (underway h text run) w
    · exact .clash hclash

/-! ### Both calls -/

/-- **Two writes of one file.** Nothing but each other is in the way of the two calls. Whatever the
order of their turns, a reader of the file never sees a part of a text. And when both have returned,
they have succeeded and published their own texts if and only if they were never both between their
staging and their publication. -/
theorem both_publish_iff_no_clash (h : Ready fs path target backup staging)
    (text : Writer → Bytes) (run : List Writer) :
    (∀ m ∈ (Shared.begin fs path text).moves run,
      m.after.files.read path = fs.read path ∨ ∃ w, m.after.files.read path = .ok (text w)) ∧
    ((∀ w, 4 ≤ run.count w) →
      ((∀ w, (((Shared.begin fs path text).after run).job w).outcome? = some (.ok ()) ∧
          PublishedOwn ((Shared.begin fs path text).moves run) path text w) ↔
        ∀ m ∈ (Shared.begin fs path text).moves run, ¬m.after.Clash)) := by
  refine ⟨fun m hm => ?_, fun hrun => ⟨fun hboth m hm hclash => ?_, fun hclash w => ?_⟩⟩
  · obtain ⟨run', hbefore⟩ := Shared.exists_before_of_mem_moves hm
    have hunder := (underway h text run').step m.writer
    rw [← hbefore] at hunder
    exact hunder.read h.target
  · cases doomed_after h text ⟨m, hm, hclash⟩ with
    | clash hclash =>
      have hdone := WriteJob.outcome?_eq_some_iff.mp (hboth .left).1
      exact absurd ((hclash .left).symm.trans hdone) (by simp)
    | robbed w hphase _ _ =>
      have hdone := WriteJob.outcome?_eq_some_iff.mp (hboth w).1
      exact absurd (hphase.symm.trans hdone) (by simp)
    | failed w e hphase =>
      have hdone := WriteJob.outcome?_eq_some_iff.mp (hboth w).1
      exact absurd (hphase.symm.trans hdone) (by simp)
  · obtain ⟨outcome, hdone⟩ := Shared.exists_outcome (.begin fs path text) (hrun w)
    obtain rfl := (sound_after h text hclash).succeeded w outcome hdone
    exact ⟨WriteJob.outcome?_eq_some_iff.mpr hdone, publishedOwn_after h text hclash hdone⟩

end Run

/-- Two updates of the routes of one user. -/
def rival : Writer → UserUpdate
  | .left => ⟨"alice", ["10.0.0.0/8"], [], .empty⟩
  | .right => ⟨"alice", ["192.168.0.0/16"], [], .empty⟩

/-- What they are rendered to. -/
def rivalText : Writer → String
  | .left => "# Generated by warden for alice\nroute = 10.0.0.0/8\n"
  | .right => "# Generated by warden for alice\nroute = 192.168.0.0/16\n"

/-- Neither of the two updates is refused. -/
theorem render_rival (w : Writer) : (rival w).render = .ok (rivalText w) := by
  cases w <;> decide +kernel

/-- The two calls, where there is no file yet. -/
def rivals : Shared := .begin {} "alice" fun w => Text.encode (rivalText w)

/-- Nothing is in the way of the two calls. -/
theorem ready_rivals : Ready {} "alice" ["alice"] ["alice.bak"] ["alice.tmp"] :=
  ⟨⟨by decide +kernel, by decide, by decide⟩, ⟨by decide +kernel, by decide, by decide⟩,
    ⟨by decide +kernel, by decide, by decide⟩⟩

/-- One call after the other. -/
def serial : List Writer := List.replicate 4 .left ++ List.replicate 4 .right

/-- One after the other, both calls publish their own texts. -/
theorem serial_both_publish :
    Ready {} "alice" ["alice"] ["alice.bak"] ["alice.tmp"] ∧ (∀ w, 4 ≤ serial.count w) ∧
      ∀ w, ((rivals.after serial).job w).outcome? = some (.ok ()) ∧
        PublishedOwn (rivals.moves serial) "alice" (fun w => Text.encode (rivalText w)) w := by
  have hcount : ∀ w, 4 ≤ serial.count w := by
    rintro (_ | _) <;> decide
  have hclash : ∀ m ∈ rivals.moves serial, ¬m.after.Clash := by decide +kernel
  have hiff :=
    (both_publish_iff_no_clash ready_rivals (fun w => Text.encode (rivalText w)) serial).2
  rw [rivals] at hclash ⊢
  exact ⟨ready_rivals, hcount, (hiff hcount).mpr hclash⟩

/-- Both calls stage their texts before one of them publishes. -/
def clashing : List Writer :=
  [.left, .left, .right, .right, .left, .right, .left, .right]

/-- The call that publishes first returns success with the text of the other call published, and
the other call fails. -/
theorem clash_publishes_other_text :
    (∀ w, (rival w).render = .ok (rivalText w)) ∧ rivalText .left ≠ rivalText .right ∧
      Ready {} "alice" ["alice"] ["alice.bak"] ["alice.tmp"] ∧ (∀ w, 4 ≤ clashing.count w) ∧
      ((rivals.after clashing).job .left).outcome? = some (.ok ()) ∧
      (∃ m ∈ rivals.moves clashing, m.writer = .left ∧ m.Publishes ∧
        m.after.files.read "alice" = .ok (Text.encode (rivalText .right))) ∧
      ((rivals.after clashing).job .right).outcome? = some (.error .notFound) := by
  refine ⟨render_rival, by decide, ready_rivals, ?_, by decide +kernel, ?_, by decide +kernel⟩
  · rintro (_ | _) <;> decide
  · have hmem : ⟨.left, rivals.after (clashing.take 4)⟩ ∈ rivals.moves clashing :=
      .tail _ (.tail _ (.tail _ (.tail _ (.head _))))
    exact ⟨_, hmem, rfl, ⟨by decide +kernel, by decide +kernel⟩, by decide +kernel⟩

/-! ### Single steps -/

/-- A writer takes a single step, of which the staging has two. -/
def Shared.singleStep (s : Shared) (w : Writer) : Shared :=
  let (files, job) := WriteJob.step s.files (s.job w)
  ⟨files, Function.update s.job w job⟩

/-- **What is published may be empty.** A call that opens the staging file just before the other
publishes it takes the text away from under the other, which succeeds all the same. A reader then
finds the file empty. -/
theorem opened_staging_published {path : String} {target backup staging : Location} {s : Shared}
    {w : Writer} (hready : Ready s.files path target backup staging)
    (hpath : ∀ w, (s.job w).path = path) (hpublish : (s.job w).phase = .publish)
    (hstage : (s.job w.other).phase = .stage) :
    let s' := (s.singleStep w.other).singleStep w
    s'.files.read path = .ok [] ∧ (s'.job w).outcome? = some (.ok ()) := by
  have hstaging : s.files.Writable (stagingPath (s.job w.other).path) staging :=
    (hpath w.other).symm ▸ hready.staging
  obtain ⟨fs₁, mode, hopen, hopened⟩ := WriteJob.step_stage hstaging hstage
  have hready₁ : Ready fs₁ (s.job w).path target backup staging :=
    (hpath w).symm ▸ hready.of_edit hopened hready.staging.not_directory (by simp)
  obtain ⟨fs₂, fs₃, hrename, hdrop, hput⟩ :=
    WriteJob.step_publish hready₁ hpublish hopened.node?_self
  have hfiles : (s.singleStep w.other).files = fs₁ := congrArg Prod.fst hopen
  have hjob : (s.singleStep w.other).job w = s.job w := Function.update_of_ne w.other_ne.symm ..
  have hafter : (s.singleStep w.other).singleStep w =
      (s.singleStep w.other).advance w fs₃ (.done (.ok ())) := by
    rw [Shared.singleStep, Shared.advance, hjob, hfiles, hrename]
  have hready₂ := hready₁.of_edit hdrop hready₁.staging.not_directory (by simp)
  have hready₃ := hready₂.of_edit hput hready₂.target.not_directory (by simp)
  refine ⟨?_, WriteJob.outcome?_eq_some_iff.mpr ?_⟩
  · rw [hafter, Shared.files_advance, ← hpath w, FileSystem.read_of_writable hready₃.target,
      hput.node?_self]
  · rw [hafter, Shared.job_advance_self]

example :
    let s := rivals.after [.left, .left, .right]
    ((s.singleStep .right).singleStep .left).files.read "alice" = .ok [] := by
  decide +kernel

end Interleaving

end GatewayAgent
