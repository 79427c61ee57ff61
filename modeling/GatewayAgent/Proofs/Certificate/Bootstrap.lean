import GatewayAgent.Proofs.Certificate.Armour
import GatewayAgent.Proofs.Certificate.Minting

/-!
# What a bootstrap leaves behind

A bootstrap renews its files one after the other: those that it gets to stand in their places,
complete, and every other file is what it was (`Renewed`). Main statement:
`failed_bootstrap_cases`. A bootstrap that fails while it makes the certificates has touched
nothing. One that fails at a file has renewed those before it, and takes nothing back: there can be
a new authority in front of an old certificate, or one that was begun where the disk is full
(`failed_bootstrap_replaces_authority`).
-/

namespace GatewayAgent

variable {fs fs' fs₁ : FileSystem} {place : Location} {paths : TlsPaths} {hostname : String}
  {now : Instant} {entropy rest : Crypto.Entropy} {m : Material} {faults : StepFaults}

/-! ### Renewed files -/

/-- Some files stand in their places, a later one in front of an earlier one. Besides these there
are at most new directories. -/
structure Renewed (fs : FileSystem) (files : List InstallFile) (fs' : FileSystem) : Prop where
  grownOutside : fs.GrownOutside (placesOf fs' files) fs'
  node?_eq : ∀ {before f after}, files = before ++ f :: after →
    ∃ place, fs'.locate f.path = .ok place ∧
      (place ∉ placesOf fs' after → fs'.node? place = some f.node)

namespace Renewed

variable {files : List InstallFile}

theorem of_installs (h : Installs fs files fs') : Renewed fs files fs' := by
  refine ⟨h.grownOutside, ?_⟩
  rintro before f after rfl
  exact h.node?_eq

/-- New directories leave the renewed files in their places. -/
theorem trans_grownOutside (h : Renewed fs files fs₁) (hgrown : fs₁.GrownOutside ∅ fs') :
    Renewed fs files fs' := by
  have hplaces : ∀ more, placesOf fs₁ more ⊆ placesOf fs' more := by
    rintro more p ⟨g, hg, hp⟩
    exact ⟨g, hg, hgrown.locate_eq_ok hp⟩
  refine ⟨?_, ?_⟩
  · exact (h.grownOutside.mono (hplaces files)).trans (hgrown.mono (Set.empty_subset _))
  · rintro before f after hfiles
    obtain ⟨place, hlocate, hnode⟩ := h.node?_eq hfiles
    refine ⟨place, hgrown.locate_eq_ok hlocate, fun hlast => ?_⟩
    exact (hgrown.file_iff (Set.notMem_empty place)).mpr
      (hnode fun hmem => hlast (hplaces after hmem))

/-- At the place of a renewed file stands one of them. -/
theorem exists_of_mem_placesOf (h : Renewed fs files fs') (hplace : place ∈ placesOf fs' files) :
    ∃ f ∈ files, fs'.locate f.path = .ok place ∧ fs'.node? place = some f.node := by
  -- The last file that leads to the place is looked for, so the files before it do not matter.
  suffices hlast : ∀ before after, files = before ++ after → place ∈ placesOf fs' after →
      ∃ f ∈ after, fs'.locate f.path = .ok place ∧ fs'.node? place = some f.node from
    hlast [] files rfl hplace
  intro before after hfiles hafter
  induction after generalizing before with
  | nil =>
    obtain ⟨g, hg, -⟩ := hafter
    simp at hg
  | cons f after ih =>
    by_cases hlater : place ∈ placesOf fs' after
    · obtain ⟨g, hg, hnode⟩ := ih (before ++ [f]) (by simp [hfiles]) hlater
      exact ⟨g, List.mem_cons_of_mem f hg, hnode⟩
    · obtain ⟨g, hg, hlocate⟩ := hafter
      rcases List.mem_cons.mp hg with rfl | hg
      · obtain ⟨p, hp, hnode⟩ := h.node?_eq hfiles
        obtain rfl : p = place := Except.ok.inj (hp.symm.trans hlocate)
        exact ⟨g, List.mem_cons_self, hlocate, hnode hlater⟩
      · exact absurd ⟨g, hg, hlocate⟩ hlater

/-- A file is what it was, or one of the renewed ones has taken its place. -/
theorem kept_or_replaced (h : Renewed fs files fs') {content : Bytes} {mode : Nat}
    (hold : fs.node? place = some (.file content mode)) :
    fs'.node? place = some (.file content mode) ∨
      ∃ f ∈ files, fs'.locate f.path = .ok place ∧ fs'.node? place = some f.node := by
  by_cases hplace : place ∈ placesOf fs' files
  · exact .inr (h.exists_of_mem_placesOf hplace)
  · exact .inl ((h.grownOutside.file_iff hplace).mpr hold)

end Renewed

/-- An installed file can be found. -/
theorem Installs.hasEntry {files : List InstallFile} {f : InstallFile} (h : Installs fs files fs')
    (hf : f ∈ files) : fs'.hasEntry f.path = true := by
  have hrenewed : Renewed fs files fs' := .of_installs h
  obtain ⟨before, after, hfiles⟩ := List.append_of_mem hf
  obtain ⟨place, hlocate, -⟩ := hrenewed.node?_eq hfiles
  obtain ⟨g, -, -, hnode⟩ := hrenewed.exists_of_mem_placesOf ⟨f, hf, hlocate⟩
  rw [FileSystem.hasEntry, FileSystem.find_of_locate hlocate (h.no_slash hf) hnode]
  rfl

/-! ### Bootstrap -/

/-- Where nothing can be made, nothing is touched. -/
theorem bootstrap_of_mint_error {e : CertificateError}
    (hmint : (Material.mint paths hostname now).run entropy = .error e) (fs : FileSystem)
    (faults : StepFaults) : bootstrap paths hostname now entropy fs faults = (fs, .error e) := by
  rw [bootstrap, hmint]

theorem bootstrap_eq_of_mint
    (hmint : (Material.mint paths hostname now).run entropy = .ok (m, rest)) (fs : FileSystem)
    (faults : StepFaults) :
    bootstrap paths hostname now entropy fs faults =
      ((InstallStep.runAll faults (m.files.flatMap InstallFile.steps) fs).1,
        (InstallStep.runAll faults (m.files.flatMap InstallFile.steps) fs).2.map fun _ => m) := by
  rw [bootstrap, hmint, ← Material.installSteps_eq]
  dsimp only
  rcases InstallStep.runAll faults m.installSteps fs with ⟨fs', e | _⟩ <;> rfl

/-- With everything made, a bootstrap renews all files or those before the one that is refused. -/
theorem bootstrap_cases
    (hmint : (Material.mint paths hostname now).run entropy = .ok (m, rest)) (fs : FileSystem)
    (faults : StepFaults) :
    (∃ fs', bootstrap paths hostname now entropy fs faults = (fs', .ok m) ∧
      Renewed fs m.files fs') ∨
    ∃ written refused pending fs₁ fs' e, m.files = written ++ refused :: pending ∧
      Renewed fs written fs₁ ∧ refused.Refused faults fs₁ fs' e ∧ (written = [] → fs₁ = fs) ∧
      bootstrap paths hostname now entropy fs faults = (fs', .error e) := by
  rw [bootstrap_eq_of_mint hmint]
  obtain ⟨fs', hrun, hinstalls⟩ |
    ⟨written, refused, pending, fs₁, fs', e, hfiles, hinstalls, hrefused, hrun⟩ :=
    installation_cases m.files faults fs
  · refine .inl ⟨fs', ?_, .of_installs hinstalls⟩
    rw [hrun]
    rfl
  · refine .inr ⟨written, refused, pending, fs₁, fs', e, hfiles, .of_installs hinstalls, hrefused,
      ?_, ?_⟩
    · rintro rfl
      cases hinstalls
      rfl
    · rw [hrun]
      rfl

/-- What a failed bootstrap leaves behind: all that was there, if nothing could be made, or else
the new files up to the one that was refused, and of this one a beginning at most. -/
theorem failed_bootstrap_cases {e : CertificateError}
    (h : bootstrap paths hostname now entropy fs faults = (fs', .error e)) :
    ((Material.mint paths hostname now).run entropy = .error e ∧ fs' = fs) ∨
    ∃ m rest, (Material.mint paths hostname now).run entropy = .ok (m, rest) ∧
      ∃ written refused pending fs₁, m.files = written ++ refused :: pending ∧
        Renewed fs written fs₁ ∧ refused.Refused faults fs₁ fs' e := by
  cases hmint : (Material.mint paths hostname now).run entropy with
  | error e' =>
    rw [bootstrap_of_mint_error hmint] at h
    obtain ⟨rfl, he⟩ := Prod.mk.inj h
    exact .inl ⟨congrArg Except.error (Except.error.inj he), rfl⟩
  | ok made =>
    obtain ⟨m, rest⟩ := made
    refine .inr ⟨m, rest, rfl, ?_⟩
    obtain ⟨fs₁, hrun, -⟩ | ⟨written, refused, pending, fs₁, fs₂, e₁, hfiles, hrenewed, hrefused,
      -, hrun⟩ := bootstrap_cases hmint fs faults
    · rw [hrun] at h
      simp at h
    · rw [hrun] at h
      obtain ⟨rfl, he⟩ := Prod.mk.inj h
      obtain rfl := Except.error.inj he
      exact ⟨written, refused, pending, fs₁, hfiles, hrenewed, hrefused⟩

/-- Whatever comes of a bootstrap, it has renewed its first files, if no step breaks. -/
theorem bootstrap_renews_first
    (hmint : (Material.mint paths hostname now).run entropy = .ok (m, rest)) (fs : FileSystem) :
    ∃ files, files <+: m.files ∧ Renewed fs files (bootstrap paths hostname now entropy fs).1 ∧
      (m.caFile.directorySteps = [] → (∃ place, fs.Writable m.paths.ca place) →
        m.caFile ∈ files) := by
  obtain ⟨fs', hrun, hrenewed⟩ | ⟨written, refused, pending, fs₁, fs', e, hfiles, hrenewed,
    hrefused, hfirst, hrun⟩ := bootstrap_cases hmint fs StepFaults.none
  · rw [hrun]
    exact ⟨m.files, List.prefix_rfl, hrenewed, fun _ _ => List.mem_cons_self⟩
  · rw [hrun]
    refine ⟨written, ⟨refused :: pending, hfiles.symm⟩,
      hrenewed.trans_grownOutside hrefused.grownOutside_empty, fun hplain hwritable => ?_⟩
    -- The first of the files is the one that could be written.
    rcases written with _ | ⟨f, written⟩
    · obtain ⟨rfl, -⟩ := List.cons.inj hfiles
      obtain rfl := hfirst rfl
      exact absurd hwritable (hrefused.not_writable hplain)
    · obtain ⟨rfl, -⟩ := List.cons.inj hfiles
      exact List.mem_cons_self

/-- A file is what it was, or a new one of the three has taken its place, which may have been begun
only if a step breaks. -/
theorem bootstrap_keeps_or_replaces (paths : TlsPaths) (hostname : String) (now : Instant)
    (entropy : Crypto.Entropy) (faults : StepFaults) {content : Bytes} {mode : Nat}
    (hold : fs.node? place = some (.file content mode)) :
    let result := bootstrap paths hostname now entropy fs faults
    result.1.node? place = some (.file content mode) ∨
      ∃ m rest, (Material.mint paths hostname now).run entropy = .ok (m, rest) ∧
        ∃ f ∈ m.files, result.1.locate f.path = .ok place ∧
          (result.1.node? place = some f.node ∨
            ∃ cause part, result.2 = .error (.write f.path cause) ∧ faults.Reports cause ∧
              part <+: Text.encode f.text ∧
              ∃ kept, result.1.node? place = some (.file part kept) ∧
                (kept = mode ∨ ∃ g ∈ m.files, kept = g.mode)) := by
  intro result
  cases hmint : (Material.mint paths hostname now).run entropy with
  | error e =>
    have hrun : result = (fs, .error e) := bootstrap_of_mint_error hmint fs faults
    rw [hrun]
    exact .inl hold
  | ok made =>
    obtain ⟨m, rest⟩ := made
    obtain ⟨fs', hrun, hrenewed⟩ | ⟨written, refused, pending, fs₁, fs', e, hfiles, hrenewed,
      hrefused, -, hrun⟩ := bootstrap_cases hmint fs faults
    · replace hrun : result = (fs', .ok m) := hrun
      rw [hrun]
      refine (hrenewed.kept_or_replaced hold).imp_right fun ⟨f, hf, hlocate, hnode⟩ => ?_
      exact ⟨m, rest, rfl, f, hf, hlocate, .inl hnode⟩
    · replace hrun : result = (fs', .error e) := hrun
      have hmem : refused ∈ m.files := by simp [hfiles]
      have hsubset : ∀ f ∈ written, f ∈ m.files := fun f hf => by simp [hfiles, hf]
      rw [hrun]
      -- The file as it is when the refused one has its turn, and then.
      rcases hrenewed.kept_or_replaced hold with hkept | ⟨f, hf, hlocate, hnode⟩
      · refine (hrefused.kept_or_begun hkept).imp_right ?_
        rintro ⟨cause, part, rfl, hreason, hpart, hlocate, hnode⟩
        exact ⟨m, rest, rfl, refused, hmem, hlocate, .inr
          ⟨cause, part, rfl, hreason, hpart, mode, hnode, .inl rfl⟩⟩
      · rcases hrefused.kept_or_begun hnode with
          hkept | ⟨cause, part, rfl, hreason, hpart, hlocate', hnode'⟩
        · exact .inr ⟨m, rest, rfl, f, hsubset f hf, hrefused.grownOutside.locate_eq_ok hlocate,
            .inl hkept⟩
        · exact .inr ⟨m, rest, rfl, refused, hmem, hlocate', .inr
            ⟨cause, part, rfl, hreason, hpart, f.mode, hnode', .inr ⟨f, hsubset f hf, rfl⟩⟩⟩

/-- After a bootstrap that succeeds, all three files can be found. -/
theorem present_of_bootstrap (h : bootstrap paths hostname now entropy fs faults = (fs', .ok m)) :
    paths.present fs' = true := by
  cases hmint : (Material.mint paths hostname now).run entropy with
  | error e =>
    rw [bootstrap_of_mint_error hmint] at h
    simp at h
  | ok made =>
    rw [bootstrap_eq_of_mint hmint] at h
    obtain ⟨fs₁, hrun, hinstalls⟩ | ⟨-, -, -, -, fs₁, e, -, -, -, hrun⟩ :=
      installation_cases made.1.files faults fs
    · rw [hrun] at h
      obtain rfl : fs₁ = fs' := congrArg Prod.fst h
      have hentry : ∀ f ∈ made.1.files, fs₁.hasEntry f.path = true := fun f hf =>
        hinstalls.hasEntry hf
      have hpaths : made.1.paths = paths := (of_mint hmint).1
      simp only [Material.files, Material.caFile, Material.certFile, Material.keyFile, hpaths,
        List.forall_mem_cons] at hentry
      simp only [TlsPaths.present, hentry, Bool.and_self]
    · rw [hrun] at h
      simp [Except.map] at h

/-! ### An old authority -/

/-- The usual names of the files, in the working directory. -/
def plainPaths : TlsPaths := .inDirectory ""

theorem directorySteps_of_plain (h : m.paths = plainPaths) {f : InstallFile} (hf : f ∈ m.files) :
    f.directorySteps = [] := by
  refine InstallFile.directorySteps_eq_nil ?_
  have hnone : ∀ path ∈ plainPaths.toList, (Path.parent? path).filter (· ≠ "") = none := by
    decide +kernel
  rw [← h] at hnone
  exact hnone f.path (Material.path_mem_of_mem_files hf)

/-- An old content without blanks does not outlive a bootstrap in which no step breaks, not even one
that fails. -/
theorem old_authority_replaced
    (hmint : (Material.mint plainPaths hostname now).run entropy = .ok (m, rest))
    (h : fs.Writable plainPaths.ca place) {old : Bytes} (hblank : 32 ∉ old) (mode : Nat) :
    (bootstrap plainPaths hostname now entropy fs).1.node? place ≠ some (.file old mode) := by
  have hpaths := (of_mint hmint).1
  rw [← hpaths] at h
  obtain ⟨files, hfiles, hrenewed, hfirst⟩ := bootstrap_renews_first hmint fs
  have hca : m.caFile ∈ files :=
    hfirst (directorySteps_of_plain hpaths List.mem_cons_self) ⟨place, h⟩
  obtain ⟨f, hf, -, hnode⟩ := hrenewed.exists_of_mem_placesOf
    ⟨m.caFile, hca, hrenewed.grownOutside.locate_eq_ok h.locate_eq⟩
  obtain ⟨b, hb⟩ := exists_write_of_mem_files hmint (hfiles.subset hf)
  rw [hnode, InstallFile.node, hb]
  intro heq
  obtain ⟨rfl, -⟩ := FileNode.file.inj (Option.some.inj heq)
  exact Pem.write_not_infix hblank b List.infix_rfl

/-! ### A key that cannot be written -/

/-- An old authority, and a directory in the place of the key. -/
def obstructed : FileSystem :=
  (FileSystem.put {} ["ca.crt"] (.file (Text.encode "old\n") publicMode)).put ["agent.key"]
    .directory

theorem exists_bootstrap_obstructed :
    ∃ fs' e, bootstrap plainPaths "gw" ⟨0⟩ noRandomness obstructed = (fs', .error e) := by
  obtain ⟨m, rest, hmint⟩ := exists_mint plainPaths
  obtain ⟨fs', -, hrenewed⟩ | ⟨-, -, -, -, fs', e, -, -, -, -, hrun⟩ :=
    bootstrap_cases hmint obstructed StepFaults.none
  · -- The key would have taken the place of the directory.
    obtain ⟨place, hlocate, hnode⟩ :=
      hrenewed.node?_eq (show m.files = [m.caFile, m.certFile] ++ m.keyFile :: [] from rfl)
    have hkey : obstructed.locate m.paths.key = .ok ["agent.key"] := by
      rw [(of_mint hmint).1]
      decide +kernel
    obtain rfl := Except.ok.inj ((hrenewed.grownOutside.locate_eq_ok hkey).symm.trans hlocate)
    have hdir := hrenewed.grownOutside.directory ["agent.key"] (by decide +kernel)
    rw [hnode (by simp [placesOf])] at hdir
    simp [InstallFile.node] at hdir
  · exact ⟨fs', e, hrun⟩

theorem failed_bootstrap_obstructed :
    ∃ fs' e, bootstrap plainPaths "gw" ⟨0⟩ noRandomness obstructed = (fs', .error e) ∧
      (((Material.mint plainPaths "gw" ⟨0⟩).run noRandomness = .error e ∧ fs' = obstructed) ∨
      ∃ m rest, (Material.mint plainPaths "gw" ⟨0⟩).run noRandomness = .ok (m, rest) ∧
        ∃ written refused pending fs₁, m.files = written ++ refused :: pending ∧
          Renewed obstructed written fs₁ ∧ refused.Refused StepFaults.none fs₁ fs' e) := by
  obtain ⟨fs', e, h⟩ := exists_bootstrap_obstructed
  exact ⟨fs', e, h, failed_bootstrap_cases h⟩

/-- The disk is full when the first file is to be filled. -/
def diskFull : StepFaults := fun n => if n = 1 then some { cause := .noSpace } else none

/-- On a full disk the authority is opened, and loses its content. -/
theorem bootstrap_of_diskFull
    (hmint : (Material.mint plainPaths hostname now).run entropy = .ok (m, rest))
    (h : fs.Writable plainPaths.ca place) {old : Bytes} {mode : Nat}
    (hold : fs.node? place = some (.file old mode)) :
    ∃ fs', bootstrap plainPaths hostname now entropy fs diskFull =
        (fs', .error (.write plainPaths.ca .noSpace)) ∧
      fs'.node? place = some (.file [] mode) := by
  have hpaths := (of_mint hmint).1
  have hplain : m.caFile.directorySteps = [] :=
    directorySteps_of_plain hpaths List.mem_cons_self
  have hca : m.caFile.path = plainPaths.ca := congrArg TlsPaths.ca hpaths
  rw [← hca] at h
  obtain ⟨states, fs', result, -, hrun, hwrite⟩ := m.caFile.exists_writeRun diskFull h
  cases hwrite with
  | unopened hopen => cases hopen
  | torn hopen hfill hedit₁ hedit₂ =>
    cases hfill
    refine ⟨fs', ?_, ?_⟩
    · have hsteps : InstallStep.runAll diskFull m.caFile.steps fs =
          (fs', .error (.write m.caFile.path .noSpace)) := by
        rw [InstallFile.steps_eq, hplain]
        exact hrun
      rw [bootstrap_eq_of_mint hmint, Material.files, List.flatMap_cons,
        InstallStep.runAll_append_of_error hsteps, hca]
      rfl
    · rw [hedit₂.node?_self, FileSystem.openedMode, hold]
      rfl
  | unrestricted hopen hfill => cases hfill
  | whole hopen hfill => cases hfill

/-- The bootstrap fails at the key, and the old authority is gone. On a full disk it fails at the
authority, which has lost its content. -/
theorem failed_bootstrap_replaces_authority :
    obstructed.node? ["ca.crt"] = some (.file (Text.encode "old\n") publicMode) ∧
    (∃ fs' e, bootstrap plainPaths "gw" ⟨0⟩ noRandomness obstructed = (fs', .error e) ∧
      ∀ mode, fs'.node? ["ca.crt"] ≠ some (.file (Text.encode "old\n") mode)) ∧
    ∃ fs' e, bootstrap plainPaths "gw" ⟨0⟩ noRandomness obstructed diskFull = (fs', .error e) ∧
      fs'.node? ["ca.crt"] = some (.file [] publicMode) := by
  obtain ⟨m, rest, hmint⟩ := exists_mint plainPaths
  have hwritable : obstructed.Writable plainPaths.ca ["ca.crt"] :=
    ⟨by decide +kernel, by decide +kernel, by decide +kernel⟩
  have hold : obstructed.node? ["ca.crt"] = some (.file (Text.encode "old\n") publicMode) := by
    decide +kernel
  refine ⟨hold, ?_, ?_⟩
  · obtain ⟨fs', e, h⟩ := exists_bootstrap_obstructed
    refine ⟨fs', e, h, fun mode => ?_⟩
    have hreplaced := old_authority_replaced hmint hwritable
      (show 32 ∉ Text.encode "old\n" by decide +kernel) mode
    rwa [h] at hreplaced
  · obtain ⟨fs', h, hnode⟩ := bootstrap_of_diskFull hmint hwritable hold
    exact ⟨fs', _, h, hnode⟩

end GatewayAgent
