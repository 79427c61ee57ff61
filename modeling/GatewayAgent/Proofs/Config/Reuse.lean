import GatewayAgent.Proofs.Config.Provision

/-!
# What is said about files that are there

Files that are all there are used as they are, and what is wrong with them is reported. A
certificate is good if the certificate of an authority vouches for it (`Vouched`), which is what
verification finds out (`verifyTexts_eq_ok_none_iff`). It is not asked where one of the two files is
not a text, and then nothing is reported either (`materialProblem_eq_none_iff`).

Main statement: `silence_vouches_iff_legible`, no report means a good certificate exactly where both
files are texts.
-/

namespace GatewayAgent

variable {fs : FileSystem} {now : Instant} {paths : TlsPaths} {check : Certificate.SignatureCheck}

/-! ### Verification -/

theorem Certificate.objection?_eq_none_iff {c : Certificate} {k : Certificate.PublicKey} :
    c.objection? check k now = none ↔
      c.signedBy check k = true ∧ c.notBefore ≤ now.unixSecs ∧ now.unixSecs ≤ c.notAfter := by
  rw [objection?]
  split_ifs with hsigned hearly hlate
  · simp_all
  · simp [hearly]
  · simp [hlate]
  · simp_all

/-- Both texts hold a certificate. The owner of the second signed the first, by the check of
signatures, and the first is valid at the instant. -/
def Vouched (check : Certificate.SignatureCheck) (certificate issuer : String) (now : Instant) :
    Prop :=
  ∃ c signer, armouredCertificate .certificate certificate = .ok c ∧
    armouredCertificate .issuer issuer = .ok signer ∧ c.signedBy check signer.key = true ∧
    c.notBefore ≤ now.unixSecs ∧ now.unixSecs ≤ c.notAfter

/-- Verification has nothing to say against a certificate that is vouched for, and against no
other. -/
theorem verifyTexts_eq_ok_none_iff {certificate issuer : String} :
    verifyTexts certificate issuer now check = .ok none ↔
      Vouched check certificate issuer now := by
  rw [verifyTexts, Vouched]
  cases hc : armouredCertificate .certificate certificate with
  | error e => simp [bind, Except.bind]
  | ok c =>
    cases hsigner : armouredCertificate .issuer issuer with
    | error e => simp [bind, Except.bind]
    | ok signer => simp [bind, Except.bind, Certificate.objection?_eq_none_iff]

/-! ### The files -/

namespace TlsPaths

/-- The certificate and that of the authority are both files of text. -/
def Legible (paths : TlsPaths) (fs : FileSystem) : Prop :=
  (∃ text, fs.readText paths.cert = .ok text) ∧ ∃ text, fs.readText paths.ca = .ok text

/-- The files hold a certificate and that of an authority that vouches for it. -/
def Good (paths : TlsPaths) (fs : FileSystem) (now : Instant) (check : Certificate.SignatureCheck) :
    Prop :=
  ∃ certificate issuer, fs.readText paths.cert = .ok certificate ∧
    fs.readText paths.ca = .ok issuer ∧ Vouched check certificate issuer now

theorem Good.legible (h : paths.Good fs now check) : paths.Legible fs := by
  obtain ⟨certificate, issuer, hcertificate, hissuer, -⟩ := h
  exact ⟨⟨certificate, hcertificate⟩, issuer, hissuer⟩

end TlsPaths

/-- Nothing is reported about good files, and about files that are not texts. -/
theorem materialProblem_eq_none_iff :
    materialProblem paths fs now check = none ↔ (paths.Legible fs → paths.Good fs now check) := by
  rw [materialProblem, TlsPaths.Legible, TlsPaths.Good]
  cases hcertificate : fs.readText paths.cert with
  | error e => simp
  | ok certificate =>
    cases hissuer : fs.readText paths.ca with
    | error e => simp
    | ok issuer =>
      have hverdict : verifyTexts certificate issuer now check = .ok none ↔
          Vouched check certificate issuer now := verifyTexts_eq_ok_none_iff
      cases hverify : verifyTexts certificate issuer now check with
      | error e =>
        rw [hverify] at hverdict
        simpa [hverify] using hverdict
      | ok objection =>
        rw [hverify] at hverdict
        simpa [hverify] using hverdict

namespace Config

variable {c : Config}

theorem provision_of_present (henabled : c.tls.enabled = true)
    (hpresent : c.tls.material.present fs = true) (system : Option String) (now : Instant)
    (entropy : Crypto.Entropy) (faults : StepFaults) (check : Certificate.SignatureCheck) :
    c.provision system now entropy fs faults check =
      (fs, .ok (.reused (materialProblem c.tls.material fs now check))) := by
  simp only [provision, henabled, hpresent, Bool.not_true, Bool.false_eq_true, if_false, if_true]

/-- Where the files are all there, that nothing is reported says that the certificate is good,
exactly if it and its authority's can be read. This holds however signatures are checked. -/
theorem silence_vouches_iff_legible (henabled : c.tls.enabled = true)
    (hpresent : c.tls.material.present fs = true) (system : Option String) (now : Instant)
    (entropy : Crypto.Entropy) (faults : StepFaults) (check : Certificate.SignatureCheck) :
    ∃ problem, c.provision system now entropy fs faults check = (fs, .ok (.reused problem)) ∧
      ((problem = none ↔ c.tls.material.Good fs now check) ↔ c.tls.material.Legible fs) := by
  refine ⟨_, provision_of_present henabled hpresent system now entropy faults check, ?_⟩
  rw [materialProblem_eq_none_iff]
  constructor
  · -- Files that are not texts would be good for that reason alone.
    intro hsilence
    by_contra hillegible
    exact hillegible (hsilence.mp fun h => absurd h hillegible).legible
  · exact fun hlegible => ⟨fun h => h hlegible, fun hgood _ => hgood⟩

/-! ### A certificate that is not one -/

/-- All files are there, the certificate with a content of its own. -/
def installed (certificate : Bytes) : FileSystem :=
  ((FileSystem.put {} ["agent.crt"] (.file certificate publicMode)).put ["agent.key"]
    (.file (Text.encode "key\n") privateMode)).put ["ca.crt"]
    (.file (Text.encode "authority\n") publicMode)

/-- A text that is no certificate is reported. -/
theorem text_without_certificate_reported :
    plain.tls.enabled = true ∧
      plain.tls.material.present (installed (Text.encode "junk\n")) = true ∧
      ∃ problem, plain.provision none ⟨0⟩ noRandomness (installed (Text.encode "junk\n")) =
        (installed (Text.encode "junk\n"), .ok (.reused problem)) ∧ problem ≠ none := by
  have hpresent : plain.tls.material.present (installed (Text.encode "junk\n")) = true := by
    decide +kernel
  have hcertificate :
      (installed (Text.encode "junk\n")).readText plain.tls.material.cert = .ok "junk\n" := by
    decide +kernel
  have hissuer :
      (installed (Text.encode "junk\n")).readText plain.tls.material.ca = .ok "authority\n" := by
    decide +kernel
  obtain ⟨problem, hrun, hsilence⟩ :=
    silence_vouches_iff_legible (show plain.tls.enabled = true from rfl) hpresent none ⟨0⟩
      noRandomness StepFaults.none .builtIn
  refine ⟨rfl, hpresent, problem, hrun, fun hnone => ?_⟩
  obtain ⟨certificate, issuer, hread, -, c, -, hparsed, -⟩ :=
    (hsilence.mpr ⟨⟨_, hcertificate⟩, _, hissuer⟩).mp hnone
  obtain rfl := Except.ok.inj (hcertificate.symm.trans hread)
  have hjunk : (armouredCertificate .certificate "junk\n").isOk = false := by decide +kernel
  rw [hparsed] at hjunk
  simp [Except.isOk, Except.toBool] at hjunk

/-- A certificate that is not even a text is not reported, and it is not good by any check. -/
theorem illegible_certificate_unreported :
    plain.tls.enabled = true ∧ plain.tls.material.present (installed [0xFF]) = true ∧
      plain.provision none ⟨0⟩ noRandomness (installed [0xFF]) =
        (installed [0xFF], .ok (.reused none)) ∧
      ∀ check, ¬ plain.tls.material.Good (installed [0xFF]) ⟨0⟩ check := by
  have hpresent : plain.tls.material.present (installed [0xFF]) = true := by decide +kernel
  have hunread : (installed [0xFF]).readText plain.tls.material.cert = .error .notText := by
    decide +kernel
  have hsilent : materialProblem plain.tls.material (installed [0xFF]) ⟨0⟩ .builtIn = none := by
    rw [materialProblem, hunread]
  refine ⟨rfl, hpresent, ?_, fun check hgood => ?_⟩
  · rw [provision_of_present rfl hpresent, hsilent]
  · obtain ⟨⟨text, hread⟩, -⟩ := hgood.legible
    simp [hunread] at hread

end Config

end GatewayAgent
