import GatewayAgent.Config.Provision
import GatewayAgent.Proofs.Certificate.Bootstrap

/-!
# What provisioning leaves alone

Files that are all there are left alone, and so is everything where no files are to be made. Where
one of the three is missing, all three are made anew: an old one that was there has no part in the
new ones, and is replaced (`provision_replaces_authority`). Main statement:
`provision_keeps_or_replaces`. There is nothing in between, unless a step breaks while a file is
written: this one has then been begun.
-/

namespace GatewayAgent

/-- No files were made. -/
def Provisioning.Unmade : Provisioning → Prop
  | disabled | reused _ => True
  | generated _ => False

namespace Config

variable {c : Config} {system : Option String} {now : Instant} {entropy : Crypto.Entropy}
  {fs : FileSystem}

/-- The configuration asks for new files, and not all of them are there. -/
def Generates (c : Config) (fs : FileSystem) : Prop :=
  c.tls.enabled = true ∧ c.tls.material.present fs = false ∧ c.tls.autoGenerate = true

theorem provision_of_generates (h : c.Generates fs) (system : Option String) (now : Instant)
    (entropy : Crypto.Entropy) (faults : StepFaults) (check : Certificate.SignatureCheck) :
    c.provision system now entropy fs faults check =
      ((bootstrap c.tls.material (c.effectiveHostname system) now entropy fs faults).1,
        (bootstrap c.tls.material (c.effectiveHostname system) now entropy fs faults).2.map
          .generated) := by
  obtain ⟨henabled, hpresent, hauto⟩ := h
  simp only [provision, henabled, hpresent, hauto, Bool.not_true, Bool.false_eq_true, if_false]
  split
  · next hrun => rw [hrun]; rfl
  · next hrun => rw [hrun]; rfl

theorem provision_fst_of_generates (h : c.Generates fs) (system : Option String) (now : Instant)
    (entropy : Crypto.Entropy) (faults : StepFaults) (check : Certificate.SignatureCheck) :
    (c.provision system now entropy fs faults check).1 =
      (bootstrap c.tls.material (c.effectiveHostname system) now entropy fs faults).1 := by
  rw [provision_of_generates h]

/-- Where no files are to be made, what comes of the certificates touches nothing. -/
theorem provision_of_not_generates (h : ¬ c.Generates fs) (system : Option String)
    (now : Instant) (entropy : Crypto.Entropy) (faults : StepFaults)
    (check : Certificate.SignatureCheck) :
    ∃ outcome, c.provision system now entropy fs faults check = (fs, .ok outcome) ∧
      outcome.Unmade := by
  rw [provision]
  dsimp only
  split_ifs with hdisabled hpresent hmanual
  · exact ⟨_, rfl, trivial⟩
  · exact ⟨_, rfl, trivial⟩
  · exact ⟨_, rfl, trivial⟩
  · exact absurd ⟨by simpa using hdisabled, by simpa using hpresent, by simpa using hmanual⟩ h

/-- **What provisioning does to the files.** It touches nothing unless it makes new files. If it
does, then either these cannot be made, and nothing is touched; or all three are made and put in
their places, and that is what comes of it; or the directory or the file of one of the three is
refused, with those before it in their places.

So a file is what it was, or one of the three new ones stands in its place, complete; only a file
for which a step breaks while it is written is left with a beginning of its new text and with the
permissions that it had. -/
theorem provision_keeps_or_replaces (c : Config) (system : Option String) (now : Instant)
    (entropy : Crypto.Entropy) (fs : FileSystem) (faults : StepFaults)
    (check : Certificate.SignatureCheck) :
    let made := (Material.mint c.tls.material (c.effectiveHostname system) now).run entropy
    let result := c.provision system now entropy fs faults check
    (¬ c.Generates fs → ∃ outcome, result = (fs, .ok outcome) ∧ outcome.Unmade) ∧
    (c.Generates fs →
      (∃ e, made = .error e ∧ result = (fs, .error e)) ∨
      ∃ m rest, made = .ok (m, rest) ∧ m.paths = c.tls.material ∧
        (result.2 = .ok (.generated m) ∧ Renewed fs m.files result.1 ∨
          ∃ written refused pending fs₁ e, m.files = written ++ refused :: pending ∧
            Renewed fs written fs₁ ∧ refused.Refused faults fs₁ result.1 e ∧
            result.2 = .error e)) ∧
    ∀ place content mode, fs.node? place = some (.file content mode) →
      result.1.node? place = some (.file content mode) ∨
        ∃ m rest, made = .ok (m, rest) ∧ ∃ f ∈ m.files, result.1.locate f.path = .ok place ∧
          (result.1.node? place = some f.node ∨
            ∃ cause part, result.2 = .error (.write f.path cause) ∧ faults.Reports cause ∧
              part <+: Text.encode f.text ∧
              ∃ kept, result.1.node? place = some (.file part kept) ∧
                (kept = mode ∨ ∃ g ∈ m.files, kept = g.mode)) := by
  intro made result
  by_cases h : c.Generates fs
  · have hresult : result =
        ((bootstrap c.tls.material (c.effectiveHostname system) now entropy fs faults).1,
          (bootstrap c.tls.material (c.effectiveHostname system) now entropy fs faults).2.map
            .generated) := provision_of_generates h system now entropy faults check
    refine ⟨fun hnot => absurd h hnot, fun _ => ?_, fun place content mode hold => ?_⟩
    · cases hmint : made with
      | error e =>
        refine .inl ⟨e, rfl, ?_⟩
        rw [hresult, bootstrap_of_mint_error hmint]
        rfl
      | ok pair =>
        obtain ⟨m, rest⟩ := pair
        refine .inr ⟨m, rest, rfl, (of_mint hmint).1, ?_⟩
        rw [hresult]
        obtain ⟨fs', hrun, hrenewed⟩ | ⟨written, refused, pending, fs₁, fs', e, hfiles, hrenewed,
          hrefused, -, hrun⟩ := bootstrap_cases hmint fs faults
        · rw [hrun]
          exact .inl ⟨rfl, hrenewed⟩
        · rw [hrun]
          exact .inr ⟨written, refused, pending, fs₁, e, hfiles, hrenewed, hrefused, rfl⟩
    · rw [hresult]
      refine (bootstrap_keeps_or_replaces c.tls.material (c.effectiveHostname system) now entropy
        faults hold).imp_right ?_
      rintro ⟨m, rest, hmint, f, hf, hlocate, hnode | ⟨cause, part, herror, hbegun⟩⟩
      · exact ⟨m, rest, hmint, f, hf, hlocate, .inl hnode⟩
      · exact ⟨m, rest, hmint, f, hf, hlocate, .inr
          ⟨cause, part, congrArg (Except.map Provisioning.generated) herror, hbegun⟩⟩
  · obtain ⟨outcome, hrun, hunmade⟩ :=
      provision_of_not_generates h system now entropy faults check
    replace hrun : result = (fs, .ok outcome) := hrun
    refine ⟨fun _ => ⟨outcome, hrun, hunmade⟩, fun hyes => absurd hyes h,
      fun place content mode hold => .inl ?_⟩
    rw [hrun]
    exact hold

/-! ### An authority that was there -/

/-- The files have their usual names, in the working directory. -/
def plain : Config where
  hostname := some "gw"
  tls := { certFile := "agent.crt", keyFile := "agent.key", caFile := "ca.crt" }

/-- Somebody has provided an authority, and nothing else. -/
def authorityOnly : FileSystem :=
  FileSystem.put {} ["ca.crt"] (.file (Text.encode "provided\n") publicMode)

/-- The authority that was there is replaced. On a full disk it is lost and nothing comes in its
place. -/
theorem provision_replaces_authority :
    authorityOnly.node? ["ca.crt"] = some (.file (Text.encode "provided\n") publicMode) ∧
      (∀ mode, (plain.provision none ⟨0⟩ noRandomness authorityOnly).1.node? ["ca.crt"] ≠
        some (.file (Text.encode "provided\n") mode)) ∧
      (plain.provision none ⟨0⟩ noRandomness authorityOnly diskFull).1.node? ["ca.crt"] =
        some (.file [] publicMode) := by
  have hold : authorityOnly.node? ["ca.crt"] =
      some (.file (Text.encode "provided\n") publicMode) := by decide +kernel
  have hgenerates : plain.Generates authorityOnly :=
    ⟨rfl, by decide +kernel, rfl⟩
  have hpaths : plain.tls.material = plainPaths := by decide +kernel
  have hhost : plain.effectiveHostname none = "gw" := by decide +kernel
  have hwritable : authorityOnly.Writable plainPaths.ca ["ca.crt"] :=
    ⟨by decide +kernel, by decide +kernel, by decide +kernel⟩
  obtain ⟨m, rest, hmint⟩ := exists_mint plainPaths
  refine ⟨hold, fun mode => ?_, ?_⟩
  · rw [provision_fst_of_generates hgenerates, hpaths, hhost]
    exact old_authority_replaced hmint hwritable
      (show 32 ∉ Text.encode "provided\n" by decide +kernel) mode
  · obtain ⟨fs', hrun, hnode⟩ := bootstrap_of_diskFull hmint hwritable hold
    rw [provision_fst_of_generates hgenerates, hpaths, hhost, hrun]
    exact hnode

end Config

end GatewayAgent
