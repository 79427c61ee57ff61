import GatewayAgent.Proofs.Certificate.Hostname
import GatewayAgent.Proofs.Config.Provision

/-!
# Provisioning again

Provisioning that succeeds leaves nothing to be made: either nothing was to be made before, or all
three files can be found now (`not_generates_of_provision`), wherever their paths lead. So it can be
repeated at any time and changes nothing. Main statement: `provision_idempotent`.

The name that certificates are made for is never empty (`effectiveHostname_ne_empty`), so that no
provisioning is refused for it.
-/

namespace GatewayAgent

variable {fs fs' : FileSystem}

namespace Config

variable {c : Config} {system : Option String} {now : Instant} {entropy : Crypto.Entropy}
  {outcome : Provisioning} {faults : StepFaults} {check : Certificate.SignatureCheck}

/-- There is a name for every host: its own if it has one, and the fallback if it has none. -/
theorem effectiveHostname_ne_empty (c : Config) (system : Option String) :
    c.effectiveHostname system ≠ "" := by
  rw [effectiveHostname]
  split
  · next name hname =>
    rintro rfl
    rw [configuredHostname?, Option.filter_eq_some_iff] at hname
    exact absurd hname.2 (by decide)
  · cases hsystem : (system.map Text.trim).filter (· ≠ "") with
    | none => exact (by decide : fallbackHostname ≠ "")
    | some name =>
      rw [Option.filter_eq_some_iff] at hsystem
      simpa using hsystem.2

/-- Provisioning that succeeds has made files exactly where there were some to be made. -/
theorem unmade_iff_of_provision
    (h : c.provision system now entropy fs faults check = (fs', .ok outcome)) :
    outcome.Unmade ↔ ¬ c.Generates fs := by
  by_cases hgenerates : c.Generates fs
  · rw [provision_of_generates hgenerates] at h
    have hmade := congrArg Prod.snd h
    cases hresult :
        (bootstrap c.tls.material (c.effectiveHostname system) now entropy fs faults).2 with
    | error e => simp [hresult, Except.map] at hmade
    | ok m =>
      rw [hresult] at hmade
      obtain rfl := Except.ok.inj hmade
      exact ⟨False.elim, fun hnot => absurd hgenerates hnot⟩
  · obtain ⟨outcome', hrun, hunmade⟩ :=
      provision_of_not_generates hgenerates system now entropy faults check
    obtain rfl := Except.ok.inj (congrArg Prod.snd (hrun.symm.trans h))
    exact ⟨fun _ => hgenerates, fun _ => hunmade⟩

/-- Provisioning that succeeds leaves nothing to be made. -/
theorem not_generates_of_provision
    (h : c.provision system now entropy fs faults check = (fs', .ok outcome)) :
    ¬ c.Generates fs' := by
  by_cases hgenerates : c.Generates fs
  · rw [provision_of_generates hgenerates] at h
    rcases hrun : bootstrap c.tls.material (c.effectiveHostname system) now entropy fs faults with
      ⟨fs₁, e | m⟩
    · simp [hrun, Except.map] at h
    · -- Files were made, and they can all be found now.
      rw [hrun] at h
      obtain rfl : fs₁ = fs' := congrArg Prod.fst h
      rintro ⟨-, hmissing, -⟩
      rw [present_of_bootstrap hrun] at hmissing
      exact Bool.noConfusion hmissing
  · -- Nothing was to be made, and nothing has changed.
    obtain ⟨_, hrun, -⟩ := provision_of_not_generates hgenerates system now entropy faults check
    obtain rfl : fs = fs' := congrArg Prod.fst (hrun.symm.trans h)
    exact hgenerates

theorem provision_ne_invalidHostname (c : Config) (system : Option String) (now : Instant)
    (entropy : Crypto.Entropy) (fs : FileSystem) (faults : StepFaults)
    (check : Certificate.SignatureCheck) :
    (c.provision system now entropy fs faults check).2 ≠ .error .invalidHostname := by
  by_cases hgenerates : c.Generates fs
  · rw [provision_of_generates hgenerates]
    intro h
    rcases hrun : bootstrap c.tls.material (c.effectiveHostname system) now entropy fs faults with
      ⟨fs', e | m⟩
    · simp only [hrun, Except.map, Except.error.injEq] at h
      subst h
      -- A file that is refused has an error of its own, so it was the making that failed.
      obtain ⟨hmint, -⟩ | ⟨_, _, -, _, _, _, _, -, -, hrefused⟩ := failed_bootstrap_cases hrun
      · exact effectiveHostname_ne_empty c system (mint_eq_invalidHostname_iff.mp hmint)
      · cases hrefused
    · simp [hrun, Except.map] at h
  · obtain ⟨outcome, hrun, -⟩ :=
      provision_of_not_generates hgenerates system now entropy faults check
    simp [hrun]

/-- After provisioning that succeeds, be it that files were made or that there were none to make,
provisioning again succeeds at any time, with any randomness and whatever would break, makes
nothing, and changes nothing. No provisioning is refused for the name of the host. -/
theorem provision_idempotent (c : Config) (system : Option String) (now : Instant)
    (entropy : Crypto.Entropy) (fs : FileSystem) (faults : StepFaults)
    (check : Certificate.SignatureCheck) :
    (∀ fs' outcome, c.provision system now entropy fs faults check = (fs', .ok outcome) →
      (outcome.Unmade ↔ ¬ c.Generates fs) ∧
      ∀ system' now' entropy' faults' check', ∃ outcome',
        c.provision system' now' entropy' fs' faults' check' = (fs', .ok outcome') ∧
          outcome'.Unmade) ∧
      (c.provision system now entropy fs faults check).2 ≠ .error .invalidHostname := by
  refine ⟨fun fs' outcome h => ?_,
    provision_ne_invalidHostname c system now entropy fs faults check⟩
  refine ⟨unmade_iff_of_provision h, fun system' now' entropy' faults' check' => ?_⟩
  exact provision_of_not_generates (not_generates_of_provision h) system' now' entropy' faults'
    check'

/-! ### A first start -/

/-- Where there are no files at all, the first start makes them. -/
theorem exists_provision_generated :
    ∃ fs' m, plain.provision none ⟨0⟩ noRandomness {} = (fs', .ok (.generated m)) := by
  have hgenerates : plain.Generates {} := ⟨rfl, by decide +kernel, rfl⟩
  have hpaths : plain.tls.material = plainPaths := by decide +kernel
  have hhost : plain.effectiveHostname none = "gw" := by decide +kernel
  obtain ⟨m, rest, hmint⟩ := exists_mint plainPaths
  have hwritable : ∀ path ∈ plainPaths.toList, ∃ place, FileSystem.Writable {} path place := by
    have hplace : ∀ path ∈ plainPaths.toList,
        FileSystem.locate {} path = .ok [path] ∧ Path.endsWithSlash path = false ∧
          FileSystem.node? {} [path] ≠ some .directory := by
      decide +kernel
    exact fun path hpath => ⟨[path], (hplace path hpath).1, (hplace path hpath).2.1,
      (hplace path hpath).2.2⟩
  have hfiles : ∀ f ∈ m.files, ∃ place, FileSystem.Writable {} f.path place := fun f hf =>
    hwritable f.path ((of_mint hmint).1 ▸ Material.path_mem_of_mem_files hf)
  obtain ⟨fs', hrun⟩ := runAll_of_plain
    (fun f hf => directorySteps_of_plain (of_mint hmint).1 hf) hfiles
  refine ⟨fs', m, ?_⟩
  rw [provision_of_generates hgenerates, hpaths, hhost, bootstrap_eq_of_mint hmint, hrun]
  rfl

/-- The second start takes the files that the first one made, whatever the host calls itself. -/
theorem second_start_makes_nothing :
    ∃ fs' m, plain.provision none ⟨0⟩ noRandomness {} = (fs', .ok (.generated m)) ∧
      ∃ outcome, plain.provision (some "renamed") ⟨86400⟩ noRandomness fs' =
        (fs', .ok outcome) ∧ outcome.Unmade := by
  obtain ⟨fs', m, h⟩ := exists_provision_generated
  obtain ⟨-, hagain⟩ :=
    (provision_idempotent plain none ⟨0⟩ noRandomness {} StepFaults.none .builtIn).1 fs' _ h
  exact ⟨fs', m, h, hagain (some "renamed") ⟨86400⟩ noRandomness StepFaults.none .builtIn⟩

end Config

end GatewayAgent
