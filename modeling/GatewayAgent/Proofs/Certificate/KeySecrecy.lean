import GatewayAgent.Proofs.Certificate.Bootstrap

/-!
# Who can read a new private key

A bootstrap takes the steps of `Material.installSteps`, and a private key must be closed to all but
its owner in each of the states that they lead through (`Guards`). Before the key is written, it is
nowhere (`holdsNowhere_before_key`). Its file is opened, filled and restricted in this order, so
between the last two steps the key has the permissions that its file was opened with: those of a new
file, or those of an old one that was there (`InstallFile.guarded_iff`).

Main statement: `key_guarded_iff`. An old file with loose permissions in the place of the key
exposes the new key for a time (`old_file_exposes_key`).
-/

namespace GatewayAgent

variable {fs fs' fs₁ : FileSystem} {place : Location} {secret : Bytes} {paths : TlsPaths}
  {hostname : String} {now : Instant} {entropy rest : Crypto.Entropy} {m : Material}

/-- The permissions of the group and of others. -/
def othersMask : Nat := 0o077

theorem privateMode_closed : privateMode &&& othersMask = 0 := by decide

namespace FileSystem

/-- No file has the octets in it. -/
def HoldsNowhere (fs : FileSystem) (secret : Bytes) : Prop :=
  ∀ place content mode, fs.node? place = some (.file content mode) → ¬ secret <:+: content

/-- Every file that has the octets in it is closed to all but its owner. -/
def Guards (fs : FileSystem) (secret : Bytes) : Prop :=
  ∀ place content mode, fs.node? place = some (.file content mode) → secret <:+: content →
    mode &&& othersMask = 0

theorem HoldsNowhere.guards (h : fs.HoldsNowhere secret) : fs.Guards secret :=
  fun place content mode hfile hpart => absurd hpart (h place content mode hfile)

theorem HoldsNowhere.of_grownOutside (h : fs.HoldsNowhere secret) (hgrown : fs.GrownOutside ∅ fs') :
    fs'.HoldsNowhere secret := fun place content mode hfile =>
  h place content mode ((hgrown.file_iff (Set.notMem_empty place)).mp hfile)

/-- An edit that does not bring the octets in. -/
theorem HoldsNowhere.of_edit (h : fs.HoldsNowhere secret) {content : Bytes} {mode : Nat}
    (hedit : fs.Edit place (some (.file content mode)) fs') (hpart : ¬ secret <:+: content) :
    fs'.HoldsNowhere secret := by
  intro p content' mode' hfile
  by_cases hp : p = place
  · subst hp
    rw [hedit.node?_self] at hfile
    obtain ⟨rfl, -⟩ := FileNode.file.inj (Option.some.inj hfile)
    exact hpart
  · rw [hedit.node?_of_ne hp] at hfile
    exact h p content' mode' hfile

/-- Where the octets are brought in, the permissions there decide. -/
theorem HoldsNowhere.guards_edit_iff (h : fs.HoldsNowhere secret) {content : Bytes} {mode : Nat}
    (hedit : fs.Edit place (some (.file content mode)) fs') (hpart : secret <:+: content) :
    fs'.Guards secret ↔ mode &&& othersMask = 0 := by
  constructor
  · intro hguards
    exact hguards place content mode hedit.node?_self hpart
  · intro hmode p content' mode' hfile hpart'
    by_cases hp : p = place
    · subst hp
      rw [hedit.node?_self] at hfile
      obtain ⟨-, rfl⟩ := FileNode.file.inj (Option.some.inj hfile)
      exact hmode
    · rw [hedit.node?_of_ne hp] at hfile
      exact absurd hpart' (h p content' mode' hfile)

/-- A private file is opened with loose permissions only if it was there and had them. -/
theorem openedMode_closed_iff {mode : Nat} (hmode : mode &&& othersMask = 0) :
    fs.openedMode place mode &&& othersMask = 0 ↔
      ∀ content old, fs.node? place = some (.file content old) → old &&& othersMask = 0 := by
  have hnew : mode &&& (0o777 ^^^ fs.umask) &&& othersMask = 0 := by
    rw [Nat.and_assoc, Nat.and_comm (0o777 ^^^ fs.umask), ← Nat.and_assoc, hmode, Nat.zero_and]
  rw [openedMode]
  split
  · next content old hnode =>
    rw [hnode]
    constructor
    · intro hold content' old' heq
      obtain ⟨-, rfl⟩ := FileNode.file.inj (Option.some.inj heq)
      exact hold
    · intro h
      exact h content old rfl
  · next hnode =>
    exact iff_of_true hnew fun content old hfile => absurd hfile (hnode content old)

end FileSystem

/-! ### Before the key is written -/

/-- A step brings the octets in only by writing them. -/
theorem FileSystem.HoldsNowhere.run (h : fs.HoldsNowhere secret) (hsecret : secret ≠ [])
    {s : InstallStep} (hs : ∀ path content, s = .fill path content → ¬ secret <:+: content)
    (fault : Option StepFault) : (s.run fs fault).1.HoldsNowhere secret := by
  obtain hgrown | ⟨place, content, mode, hedit, rfl | ⟨path, whole, hfill, hpart⟩ | ⟨old, hold⟩⟩ :=
    s.changes_run fs fault
  · exact h.of_grownOutside hgrown
  · exact h.of_edit hedit fun hpart => hsecret (List.infix_nil.mp hpart)
  · exact h.of_edit hedit fun hsub => hs path whole hfill (hsub.trans hpart.isInfix)
  · exact h.of_edit hedit (h place content old hold)

theorem InstallFile.of_fill_mem_steps {f : InstallFile} {path : String} {content : Bytes}
    (h : .fill path content ∈ f.steps) : content = Text.encode f.text := by
  simp [steps, InstallStep.forFile] at h
  exact h.2

namespace Material

/-- The steps before the key is written. -/
def stepsBeforeKey (m : Material) : List InstallStep :=
  [m.caFile, m.certFile].flatMap InstallFile.steps ++ m.keyFile.directorySteps

theorem installSteps_eq_append (m : Material) :
    m.installSteps = m.stepsBeforeKey ++ m.keyFile.writeSteps := by
  simp only [installSteps_eq, files, stepsBeforeKey, List.flatMap_cons, List.flatMap_nil,
    List.append_nil, List.append_assoc, InstallFile.steps_eq m.keyFile]

end Material

theorem encode_keyText_ne_nil
    (hmint : (Material.mint paths hostname now).run entropy = .ok (m, rest)) :
    Text.encode m.keyText ≠ [] := by
  obtain ⟨-, -, -, key, hkey⟩ := of_mint hmint
  intro hnil
  have hnone : ¬ Text.encode (Pem.write ⟨Pem.curveKey, key⟩) <:+: [] :=
    Pem.write_not_infix List.not_mem_nil _
  rw [← hkey, hnil] at hnone
  exact hnone List.infix_rfl

/-- No step before the key is written brings it in: the certificates do not have it in them. -/
theorem holdsNowhere_before_key
    (hmint : (Material.mint paths hostname now).run entropy = .ok (m, rest))
    (hnew : fs.HoldsNowhere (Text.encode m.keyText)) (faults : StepFaults) :
    (InstallStep.runAll faults m.stepsBeforeKey fs).1.HoldsNowhere (Text.encode m.keyText) ∧
      ∀ fs' ∈ InstallStep.states faults m.stepsBeforeKey fs,
        fs'.HoldsNowhere (Text.encode m.keyText) := by
  obtain ⟨-, ⟨ca, hca⟩, ⟨cert, hcert⟩, key, hkey⟩ := of_mint hmint
  have hfill : ∀ path content, .fill path content ∈ m.stepsBeforeKey →
      ¬ Text.encode m.keyText <:+: content := by
    intro path content hs
    rw [hkey]
    simp only [Material.stepsBeforeKey, List.flatMap_cons, List.flatMap_nil, List.append_nil,
      List.mem_append] at hs
    rcases hs with (hs | hs) | hs
    · rw [InstallFile.of_fill_mem_steps hs, Material.caFile, hca]
      exact Pem.curveKey_not_infix_certificate key ca
    · rw [InstallFile.of_fill_mem_steps hs, Material.certFile, hcert]
      exact Pem.curveKey_not_infix_certificate key cert
    · simp [InstallFile.directorySteps] at hs
  have hstep : ∀ s ∈ m.stepsBeforeKey, ∀ (fs : FileSystem) (fault : Option StepFault),
      fs.HoldsNowhere (Text.encode m.keyText) →
        (s.run fs fault).1.HoldsNowhere (Text.encode m.keyText) := by
    intro s hs fs' fault h
    refine h.run (encode_keyText_ne_nil hmint) ?_ fault
    rintro path content rfl
    exact hfill path content hs
  exact InstallStep.forall_states hstep hnew faults

/-- Before the key is written, the two certificates are. -/
theorem renewed_before_key
    (hrun : InstallStep.runAll faults m.stepsBeforeKey fs = (fs₁, .ok ())) :
    Renewed fs [m.caFile, m.certFile] fs₁ := by
  rw [Material.stepsBeforeKey] at hrun
  obtain ⟨fs', hfiles, hinstalls⟩ | ⟨-, -, -, -, fs', e, -, -, -, hfiles⟩ :=
    installation_cases [m.caFile, m.certFile] faults fs
  · rw [InstallStep.runAll_append_of_ok hfiles] at hrun
    obtain ⟨fs₂, hgrown, -, hmade⟩ | ⟨fs₂, e, -, hmade⟩ :=
      m.keyFile.runAll_directorySteps _ fs'
    · obtain ⟨rfl, -⟩ := Prod.mk.inj (hmade.symm.trans hrun)
      exact (Renewed.of_installs hinstalls).trans_grownOutside hgrown
    · rw [hmade] at hrun
      simp at hrun
  · rw [InstallStep.runAll_append_of_error hfiles] at hrun
    simp at hrun

/-! ### While the key is written -/

/-- While a private file is written, the permissions that it is opened with decide, if it comes to
be filled. -/
theorem InstallFile.guarded_iff (f : InstallFile) (hmode : f.mode &&& othersMask = 0)
    (htext : Text.encode f.text ≠ []) (hnew : fs.HoldsNowhere (Text.encode f.text))
    (h : fs.Writable f.path place) (faults : StepFaults) :
    (∀ fs' ∈ InstallStep.states faults f.writeSteps fs, fs'.Guards (Text.encode f.text)) ↔
      (faults 0 = none → faults 1 = none → fs.openedMode place f.mode &&& othersMask = 0) := by
  have hopened : ∀ {fs₁}, fs.Edit place (some (.file [] (fs.openedMode place f.mode))) fs₁ →
      fs₁.Guards (Text.encode f.text) := fun hedit =>
    (hnew.of_edit hedit fun hpart => htext (List.infix_nil.mp hpart)).guards
  obtain ⟨states, fs', result, hstates, -, hwrite⟩ := f.exists_writeRun faults h
  rw [hstates]
  cases hwrite with
  | unopened hopen => simpa [hopen] using hnew.guards
  | @torn fs₁ fs₂ fault hopen hfill hedit₁ hedit₂ =>
    -- A part of the key is not the key.
    have hshort : ¬ Text.encode f.text <:+: (Text.encode f.text).dropLast.take fault.progress := by
      intro hpart
      have hlength := hpart.length_le
      have hpositive := List.length_pos_iff.mpr htext
      rw [List.length_take, List.length_dropLast] at hlength
      omega
    simpa [hopen, hfill] using ⟨hopened hedit₁, (hnew.of_edit hedit₂ hshort).guards⟩
  | unrestricted hopen hfill hrestrict hedit₁ hedit₂ =>
    rw [← hnew.guards_edit_iff hedit₂ List.infix_rfl]
    simpa [hopen, hfill] using fun _ => hopened hedit₁
  | whole hopen hfill hrestrict hedit₁ hedit₂ hedit₃ =>
    have hlast := (hnew.guards_edit_iff hedit₃ List.infix_rfl).mpr hmode
    rw [← hnew.guards_edit_iff hedit₂ List.infix_rfl]
    simpa [hopen, hfill, hlast] using fun _ => hopened hedit₁

/-- A file in the place of the key is a certificate that has just been written, or an old file. -/
theorem closed_before_key_iff
    (hrun : InstallStep.runAll faults m.stepsBeforeKey fs = (fs₁, .ok ())) :
    (∀ content mode, fs₁.node? place = some (.file content mode) → mode &&& othersMask = 0) ↔
      fs₁.locate m.paths.ca ≠ .ok place ∧ fs₁.locate m.paths.cert ≠ .ok place ∧
        ∀ content mode, fs.node? place = some (.file content mode) → mode &&& othersMask = 0 := by
  have hrenewed := renewed_before_key hrun
  have hplaces : place ∈ placesOf fs₁ [m.caFile, m.certFile] ↔
      fs₁.locate m.paths.ca = .ok place ∨ fs₁.locate m.paths.cert = .ok place := by
    simp [placesOf, Material.caFile, Material.certFile]
  by_cases hplace : place ∈ placesOf fs₁ [m.caFile, m.certFile]
  · -- Certificates can be read by everyone.
    have hopen : ∃ content, fs₁.node? place = some (.file content publicMode) := by
      obtain ⟨f, hf, -, hnode⟩ := hrenewed.exists_of_mem_placesOf hplace
      simp only [List.mem_cons, List.not_mem_nil, or_false] at hf
      rcases hf with rfl | rfl
      · exact ⟨_, hnode⟩
      · exact ⟨_, hnode⟩
    obtain ⟨content, hnode⟩ := hopen
    refine iff_of_false ?_ ?_
    · intro hclosed
      exact absurd (hclosed content publicMode hnode) (by decide)
    · rintro ⟨hca, hcert, -⟩
      exact (hplaces.mp hplace).elim hca hcert
  · rw [hplaces, not_or] at hplace
    have hfile : ∀ content mode, fs₁.node? place = some (.file content mode) ↔
        fs.node? place = some (.file content mode) := fun content mode =>
      hrenewed.grownOutside.file_iff (hplaces.not.mpr (not_or.mpr hplace))
    simp only [hfile]
    exact ⟨fun hold => ⟨hplace.1, hplace.2, hold⟩, fun h => h.2.2⟩

/-- The key is closed to all but its owner in every state of a bootstrap if and only if, where it
gets written, its path leads to neither certificate, and not to an old file that others can open.
It gets written unless one of the steps up to the one that fills its file fails; whether the step
that restricts the file breaks makes no difference. -/
theorem key_guarded_iff (hmint : (Material.mint paths hostname now).run entropy = .ok (m, rest))
    (hnew : fs.HoldsNowhere (Text.encode m.keyText)) (faults : StepFaults) :
    (∀ fs' ∈ InstallStep.states faults m.installSteps fs, fs'.Guards (Text.encode m.keyText)) ↔
      ∀ fs₁ place, InstallStep.runAll faults m.stepsBeforeKey fs = (fs₁, .ok ()) →
        fs₁.Writable paths.key place →
        faults m.stepsBeforeKey.length = none → faults (m.stepsBeforeKey.length + 1) = none →
          fs₁.locate paths.ca ≠ .ok place ∧ fs₁.locate paths.cert ≠ .ok place ∧
            ∀ content mode, fs.node? place = some (.file content mode) →
              mode &&& othersMask = 0 := by
  obtain ⟨hlast, hbefore⟩ := holdsNowhere_before_key hmint hnew faults
  have hguards := fun fs' hfs' => (hbefore fs' hfs').guards
  rw [m.installSteps_eq_append, ← (of_mint hmint).1]
  rcases hrun : InstallStep.runAll faults m.stepsBeforeKey fs with ⟨fs₁, e | _⟩
  · -- The key is not written at all.
    rw [InstallStep.states_append_of_error hrun]
    exact iff_of_true hguards fun fs₂ place hok => by simp at hok
  · replace hlast : fs₁.HoldsNowhere (Text.encode m.keyText) := by
      rw [hrun] at hlast
      exact hlast
    rw [InstallStep.states_append_of_ok hrun, List.forall_mem_append, and_iff_right hguards]
    by_cases hwritable : ∃ place, fs₁.Writable m.paths.key place
    · obtain ⟨place, hplace⟩ := hwritable
      have hmode : m.keyFile.mode &&& othersMask = 0 := privateMode_closed
      have hwrite := m.keyFile.guarded_iff hmode (encode_keyText_ne_nil hmint) hlast hplace
        (faults.after m.stepsBeforeKey.length)
      rw [FileSystem.openedMode_closed_iff hmode, closed_before_key_iff hrun] at hwrite
      refine hwrite.trans ?_
      constructor
      · intro hclosed fs₂ place' hok hplace'
        obtain ⟨rfl, -⟩ := Prod.mk.inj hok
        obtain rfl := Except.ok.inj (hplace.locate_eq.symm.trans hplace'.locate_eq)
        exact hclosed
      · intro h
        exact h fs₁ place rfl hplace
    · obtain ⟨cause, -, -, hstates⟩ := m.keyFile.runAll_writeSteps_of_not_writable
        (faults.after m.stepsBeforeKey.length) hwritable
      rw [hstates, List.forall_mem_singleton]
      refine iff_of_true hlast.guards fun fs₂ place hok hplace => ?_
      obtain ⟨rfl, -⟩ := Prod.mk.inj hok
      exact absurd ⟨place, hplace⟩ hwritable

/-! ### An old key -/

/-- An old file in the place of the key. -/
def oldKey (mode : Nat) : FileSystem :=
  FileSystem.put {} ["agent.key"] (.file (Text.encode "old\n") mode)

theorem node?_oldKey (mode : Nat) :
    (oldKey mode).node? ["agent.key"] = some (.file (Text.encode "old\n") mode) :=
  (FileSystem.edit_put (List.cons_ne_nil _ _) _).node?_self

theorem holdsNowhere_oldKey
    (hmint : (Material.mint paths hostname now).run entropy = .ok (m, rest)) (mode : Nat) :
    (oldKey mode).HoldsNowhere (Text.encode m.keyText) := by
  have hempty : FileSystem.HoldsNowhere {} (Text.encode m.keyText) := by
    intro place content mode' hfile
    rw [FileSystem.node?_of_ne_nil (FileSystem.ne_nil_of_file hfile)] at hfile
    exact absurd hfile (by simp [Dictionary.find?, Dictionary.empty])
  obtain ⟨-, -, -, key, hkey⟩ := of_mint hmint
  refine hempty.of_edit (FileSystem.edit_put (List.cons_ne_nil _ _) _) ?_
  rw [hkey]
  exact Pem.write_not_infix (by decide +kernel) _

/-- The key is closed all the time where the old file was closed. -/
theorem key_guarded_in_closed_file :
    ∃ m rest, (Material.mint plainPaths "gw" ⟨0⟩).run noRandomness = .ok (m, rest) ∧
      (oldKey privateMode).HoldsNowhere (Text.encode m.keyText) ∧
      ∀ fs' ∈ InstallStep.states StepFaults.none m.installSteps (oldKey privateMode),
        fs'.Guards (Text.encode m.keyText) := by
  obtain ⟨m, rest, hmint⟩ := exists_mint plainPaths
  have hnew := holdsNowhere_oldKey hmint privateMode
  refine ⟨m, rest, hmint, hnew, (key_guarded_iff hmint hnew StepFaults.none).mpr ?_⟩
  intro fs₁ place hrun hplace _ _
  have hgrown := (renewed_before_key hrun).grownOutside
  have hca : fs₁.locate plainPaths.ca = .ok ["ca.crt"] :=
    hgrown.locate_eq_ok (by decide +kernel)
  have hcert : fs₁.locate plainPaths.cert = .ok ["agent.crt"] :=
    hgrown.locate_eq_ok (by decide +kernel)
  have hkey : fs₁.locate plainPaths.key = .ok ["agent.key"] :=
    hgrown.locate_eq_ok (by decide +kernel)
  obtain rfl := Except.ok.inj (hkey.symm.trans hplace.locate_eq)
  refine ⟨by simp [hca], by simp [hcert], fun content mode hfile => ?_⟩
  rw [node?_oldKey] at hfile
  obtain ⟨-, rfl⟩ := FileNode.file.inj (Option.some.inj hfile)
  exact privateMode_closed

/-- The key is open to others for a time where the old file was open to them. -/
theorem old_file_exposes_key :
    ∃ m rest, (Material.mint plainPaths "gw" ⟨0⟩).run noRandomness = .ok (m, rest) ∧
      (oldKey publicMode).HoldsNowhere (Text.encode m.keyText) ∧
      ∃ fs' ∈ InstallStep.states StepFaults.none m.installSteps (oldKey publicMode),
        fs'.node? ["agent.key"] = some (.file (Text.encode m.keyText) publicMode) ∧
        publicMode &&& othersMask ≠ 0 := by
  obtain ⟨m, rest, hmint⟩ := exists_mint plainPaths
  refine ⟨m, rest, hmint, holdsNowhere_oldKey hmint publicMode, ?_⟩
  have hpaths := (of_mint hmint).1
  have hplain : ∀ f ∈ m.files, f.directorySteps = [] := fun f => directorySteps_of_plain hpaths
  have hca : (oldKey publicMode).Writable m.paths.ca ["ca.crt"] := by
    rw [hpaths]
    exact ⟨by decide +kernel, by decide +kernel, by decide +kernel⟩
  have hcert : (oldKey publicMode).Writable m.paths.cert ["agent.crt"] := by
    rw [hpaths]
    exact ⟨by decide +kernel, by decide +kernel, by decide +kernel⟩
  have hkey : (oldKey publicMode).Writable m.paths.key ["agent.key"] := by
    rw [hpaths]
    exact ⟨by decide +kernel, by decide +kernel, by decide +kernel⟩
  -- The two certificates are written, and the old file stays what it was.
  obtain ⟨fs₁, hrun₁, hedit₁⟩ :=
    m.caFile.runAll_steps_of_plain (hplain m.caFile (by simp [Material.files])) hca
  have hsame₁ : (oldKey publicMode).SameOutside {["ca.crt"]} fs₁ :=
    .of_edit hedit₁ rfl hca.not_directory (by simp [InstallFile.node])
  obtain ⟨fs₂, hrun₂, hedit₂⟩ :=
    m.certFile.runAll_steps_of_plain (hplain m.certFile (by simp [Material.files]))
      (hsame₁.writable hcert)
  have hsame₂ : fs₁.SameOutside {["agent.crt"]} fs₂ :=
    .of_edit hedit₂ rfl (hsame₁.writable hcert).not_directory (by simp [InstallFile.node])
  have hbefore : InstallStep.runAll StepFaults.none m.stepsBeforeKey (oldKey publicMode) =
      (fs₂, .ok ()) := by
    rw [Material.stepsBeforeKey, hplain m.keyFile (by simp [Material.files]), List.append_nil,
      List.flatMap_cons, List.flatMap_singleton, InstallStep.runAll_append_of_ok hrun₁]
    exact hrun₂
  have hold : fs₂.node? ["agent.key"] = some (.file (Text.encode "old\n") publicMode) := by
    rw [hedit₂.node?_of_ne (by decide), hedit₁.node?_of_ne (by decide), node?_oldKey]
  -- The key is written into it.
  obtain ⟨states, s₃, result, hstates, -, hwrite⟩ :=
    m.keyFile.exists_writeRun StepFaults.none (hsame₂.writable (hsame₁.writable hkey))
  cases hwrite with
  | unopened hopen => cases hopen
  | torn hopen hfill => cases hfill
  | unrestricted hopen hfill hrestrict => cases hrestrict
  | @whole s₁ s₂ _ hopen hfill hrestrict hedit₁ hfilled hedit₃ =>
    refine ⟨s₂, ?_, ?_, by decide⟩
    · rw [m.installSteps_eq_append, InstallStep.states_append_of_ok hbefore, List.mem_append]
      exact .inr (hstates ▸ by simp)
    · rw [hfilled.node?_self, FileSystem.openedMode, hold]
      rfl

end GatewayAgent
