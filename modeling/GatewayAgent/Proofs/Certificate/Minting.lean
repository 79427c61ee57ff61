import GatewayAgent.Proofs.Certificate.Installation

/-!
# What is made for a host

Everything that a bootstrap installs is made before the first file is touched. What comes out is
known well enough to tell the files apart: two certificates and a private key in armour, in the
order in which they are installed (`Material.files`, `of_mint`).
-/

namespace GatewayAgent

variable {paths : TlsPaths} {hostname : String} {now : Instant} {entropy rest : Crypto.Entropy}

namespace Minting

variable {α β : Type}

theorem bind_eq_ok {x : Minting α} {f : α → Minting β} {b : β} :
    (x >>= f).run entropy = .ok (b, rest) ↔
      ∃ a middle, x.run entropy = .ok (a, middle) ∧ (f a).run middle = .ok (b, rest) := by
  change (x.run entropy).bind (fun r => (f r.1).run r.2) = _ ↔ _
  cases x.run entropy with
  | error e => simp [Except.bind]
  | ok r =>
    constructor
    · intro h
      exact ⟨r.1, r.2, rfl, h⟩
    · rintro ⟨a, middle, hr, h⟩
      obtain rfl : r = (a, middle) := Except.ok.inj hr
      exact h

theorem pure_eq_ok {a b : α} : (pure a : Minting α).run entropy = .ok (b, rest) ↔
    a = b ∧ entropy = rest := by
  change (Except.ok (a, entropy) : Except CertificateError _) = _ ↔ _
  simp

theorem fail_ne_ok {e : CertificateError} {b : α} :
    (fail e : Minting α).run entropy ≠ .ok (b, rest) := fun h => nomatch h

theorem exists_of_isOk {r : Except CertificateError α} (h : r.isOk = true) : ∃ a, r = .ok a := by
  cases r with
  | error e => cases h
  | ok a => exact ⟨a, rfl⟩

end Minting

theorem label_of_writeCurveKey? {c : Crypto.Curve} {secret : Nat} {key : Pem.Block}
    (h : PrivateKey.writeCurveKey? c secret = some key) : key.label = Pem.curveKey := by
  obtain ⟨bits, -, rfl⟩ := Option.map_eq_some_iff.mp h
  rfl

/-- The key of an issued certificate is labelled as one. -/
theorem label_of_issue {authority : Authority} {issued : IssuedLeaf}
    (h : (authority.issue hostname).run entropy = .ok (issued, rest)) :
    issued.key.label = Pem.curveKey := by
  rw [Authority.issue] at h
  split_ifs at h
  · exact absurd h Minting.fail_ne_ok
  obtain ⟨⟨secret, point⟩, _, -, h⟩ := Minting.bind_eq_ok.mp h
  dsimp only at h
  split at h
  · next names key hnames hkey =>
    obtain ⟨serial, _, -, h⟩ := Minting.bind_eq_ok.mp h
    obtain ⟨certificate, _, -, h⟩ := Minting.bind_eq_ok.mp h
    obtain ⟨rfl, -⟩ := Minting.pure_eq_ok.mp h
    exact label_of_writeCurveKey? hkey
  · exact absurd h Minting.fail_ne_ok
  · exact absurd h Minting.fail_ne_ok

namespace Material

/-- The certificate of the authority. -/
def caFile (m : Material) : InstallFile := ⟨m.paths.ca, m.caText, publicMode⟩

/-- The certificate of the host. -/
def certFile (m : Material) : InstallFile := ⟨m.paths.cert, m.certText, publicMode⟩

/-- The private key of the host. -/
def keyFile (m : Material) : InstallFile := ⟨m.paths.key, m.keyText, privateMode⟩

/-- The three files in the order in which they are installed. -/
def files (m : Material) : List InstallFile := [m.caFile, m.certFile, m.keyFile]

theorem path_mem_of_mem_files {m : Material} {f : InstallFile} (h : f ∈ m.files) :
    f.path ∈ m.paths.toList := by
  simp only [files, List.mem_cons, List.not_mem_nil, or_false] at h
  rcases h with rfl | rfl | rfl <;> simp [TlsPaths.toList, caFile, certFile, keyFile]

theorem installSteps_eq (m : Material) : m.installSteps = m.files.flatMap InstallFile.steps := by
  simp [installSteps, files, caFile, certFile, keyFile, InstallFile.steps]

end Material

/-- Everything that there is to a bootstrap before its files are touched. -/
theorem mint_eq_ok_iff {m : Material} :
    (Material.mint paths hostname now).run entropy = .ok (m, rest) ↔
      ∃ authority middle issued leaf,
        (Authority.new hostname now).run entropy = .ok (authority, middle) ∧
        (authority.issue hostname).run middle = .ok (issued, rest) ∧
        Certificate.read? issued.certificate = some leaf ∧
        m = { paths
              caFingerprint := fingerprint authority.certificate
              certFingerprint := fingerprint issued.certificate
              validFrom := authority.notBefore
              validUntil := authority.notAfter
              subject := leaf.subject.text
              caText := armour authority.certificate
              certText := armour issued.certificate
              keyText := Pem.write issued.key } := by
  rw [Material.mint, Minting.bind_eq_ok]
  refine exists_congr fun authority => exists_congr fun middle => ?_
  rw [Minting.bind_eq_ok]
  constructor
  · rintro ⟨hauthority, issued, last, hissued, h⟩
    split at h
    · exact absurd h Minting.fail_ne_ok
    · next leaf hleaf =>
      obtain ⟨rfl, rfl⟩ := Minting.pure_eq_ok.mp h
      exact ⟨issued, leaf, hauthority, hissued, hleaf, rfl⟩
  · rintro ⟨issued, leaf, hauthority, hissued, hleaf, rfl⟩
    refine ⟨hauthority, issued, rest, hissued, ?_⟩
    rw [hleaf]
    exact Minting.pure_eq_ok.mpr ⟨rfl, rfl⟩

/-- The material is for the paths that were asked for, and its texts are two certificates and a
private key. -/
theorem of_mint {m : Material}
    (h : (Material.mint paths hostname now).run entropy = .ok (m, rest)) :
    m.paths = paths ∧ (∃ ca, m.caText = armour ca) ∧ (∃ cert, m.certText = armour cert) ∧
      ∃ key, m.keyText = Pem.write ⟨Pem.curveKey, key⟩ := by
  obtain ⟨authority, middle, issued, leaf, -, hissued, -, rfl⟩ := mint_eq_ok_iff.mp h
  refine ⟨rfl, ⟨_, rfl⟩, ⟨_, rfl⟩, issued.key.content, ?_⟩
  rw [← label_of_issue hissued]

/-- All three texts are octets in armour. -/
theorem exists_write_of_mem_files {m : Material}
    (h : (Material.mint paths hostname now).run entropy = .ok (m, rest)) {f : InstallFile}
    (hf : f ∈ m.files) : ∃ b, f.text = Pem.write b := by
  obtain ⟨-, ⟨ca, hca⟩, ⟨cert, hcert⟩, key, hkey⟩ := of_mint h
  simp only [Material.files, List.mem_cons, List.not_mem_nil, or_false] at hf
  rcases hf with rfl | rfl | rfl
  · exact ⟨_, hca⟩
  · exact ⟨_, hcert⟩
  · exact ⟨_, hkey⟩

/-- A source without randomness, which is good enough to see what is made. -/
def noRandomness : Crypto.Entropy where
  block _ := List.replicate 32 0

theorem isOk_mint_noRandomness :
    ((Material.mint ⟨"", "", ""⟩ "gw" ⟨0⟩).run noRandomness).isOk = true := by
  decide +kernel

/-- A host gets its certificates, wherever they are to be kept. -/
theorem exists_mint (paths : TlsPaths) :
    ∃ m rest, (Material.mint paths "gw" ⟨0⟩).run noRandomness = .ok (m, rest) := by
  obtain ⟨⟨m, rest⟩, hmint⟩ := Minting.exists_of_isOk isOk_mint_noRandomness
  obtain ⟨authority, middle, issued, leaf, hauthority, hissued, hleaf, -⟩ :=
    mint_eq_ok_iff.mp hmint
  exact ⟨_, _, mint_eq_ok_iff.mpr
    ⟨authority, middle, issued, leaf, hauthority, hissued, hleaf, rfl⟩⟩

end GatewayAgent
