import GatewayAgent.Certificate.Bootstrap

/-!
# Names to make certificates for

A certificate can be made for every name that is not empty: what else may go wrong has an error of
its own (`mint_eq_invalidHostname_iff`). Making is a sequence of small steps, and that none of them
fails with an error is passed on from the steps to the whole (`Minting.Spares.bind`).
-/

namespace GatewayAgent

namespace Minting

variable {α β : Type} {x : Minting α} {f : α → Minting β} {e e' : CertificateError}

/-- However the random octets fall, this does not fail with the error. -/
def Spares (x : Minting α) (e : CertificateError) : Prop := ∀ entropy, x.run entropy ≠ .error e

theorem spares_pure (a : α) : (pure a : Minting α).Spares e := fun _ h => nomatch h

theorem spares_fail (h : e' ≠ e) : (fail e' : Minting α).Spares e :=
  fun _ heq => h (Except.error.inj heq)

theorem Spares.bind (hx : x.Spares e) (hf : ∀ a, (f a).Spares e) : (x >>= f).Spares e := by
  intro entropy
  change (x.run entropy).bind (fun r => (f r.1).run r.2) ≠ .error e
  cases hrun : x.run entropy with
  | error cause =>
    rintro ⟨⟩
    exact hx entropy hrun
  | ok r => exact hf r.1 r.2

theorem spares_block : block.Spares e := fun _ h => nomatch h

theorem spares_serial : serial.Spares e := spares_block.bind fun _ => spares_pure _

theorem spares_key (role : String) : (key role).Spares .invalidHostname := by
  refine spares_block.bind fun _ => ?_
  dsimp only
  split
  · exact spares_pure _
  · exact spares_fail (by simp)

end Minting

open Minting

theorem Draft.spares_sign (d : Draft) (secret : Nat) (fault : String) :
    (d.sign secret fault).Spares .invalidHostname := by
  refine spares_block.bind fun _ => ?_
  dsimp only
  split
  · exact spares_pure _
  · exact spares_fail (by simp)

variable {hostname : String}

theorem Authority.spares_new (h : hostname ≠ "") (now : Instant) :
    (Authority.new hostname now).Spares .invalidHostname := by
  rw [Authority.new, if_neg (by simpa using h)]
  refine (spares_key "root").bind fun pair => ?_
  refine spares_serial.bind fun _ => ?_
  exact (Draft.spares_sign _ _ _).bind fun _ => spares_pure _

theorem Authority.spares_issue (h : hostname ≠ "") (a : Authority) :
    (a.issue hostname).Spares .invalidHostname := by
  rw [Authority.issue, if_neg (by simpa using h)]
  refine (spares_key "leaf").bind fun pair => ?_
  dsimp only
  split
  · refine spares_serial.bind fun _ => ?_
    exact (Draft.spares_sign _ _ _).bind fun _ => spares_pure _
  · exact spares_fail (by simp)
  · exact spares_fail (by simp)

/-- Only an empty name is refused for being one. -/
theorem mint_eq_invalidHostname_iff {paths : TlsPaths} {now : Instant} {entropy : Crypto.Entropy} :
    (Material.mint paths hostname now).run entropy = .error .invalidHostname ↔ hostname = "" := by
  constructor
  · intro hrun
    by_cases h : hostname = ""
    · exact h
    suffices hspares : (Material.mint paths hostname now).Spares .invalidHostname from
      absurd hrun (hspares entropy)
    refine (Authority.spares_new h now).bind fun authority => ?_
    refine (Authority.spares_issue h authority).bind fun issued => ?_
    split
    · exact spares_fail (by simp)
    · exact spares_pure _
  · rintro rfl
    rfl

end GatewayAgent
