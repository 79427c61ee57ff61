import GatewayAgent.Certificate.Fingerprint
import Mathlib.Data.List.Basic
import Mathlib.Data.Set.List

/-!
# Fingerprints tell digests apart

A fingerprint has a label and 32 pairs of capital digits with colons between them
(`IsFingerprint`). Each pair is the notation of one octet (`digitPair_iff`), zeros in front
included, so the texts of that form are the notations of the digests of 32 octets, each of exactly
one (`isFingerprint_iff`). Without the label and the colons, the digits read back as the digest
(`shownOctets?_digestText`).
-/

namespace GatewayAgent

/-! ### The form -/

/-- A hexadecimal digit in upper case. -/
def CapitalDigit (c : Char) : Prop := ('0' ≤ c ∧ c ≤ '9') ∨ ('A' ≤ c ∧ c ≤ 'F')

instance (c : Char) : Decidable (CapitalDigit c) :=
  inferInstanceAs (Decidable (('0' ≤ c ∧ c ≤ '9') ∨ ('A' ≤ c ∧ c ≤ 'F')))

/-- Two hexadecimal digits in upper case. -/
def DigitPair (g : List Char) : Prop := ∃ a b, g = [a, b] ∧ CapitalDigit a ∧ CapitalDigit b

/-- The documented form of a fingerprint: a label and 32 pairs of digits, joined by colons. -/
def IsFingerprint (s : String) : Prop :=
  ∃ groups : List (List Char), groups.length = 32 ∧ (∀ g ∈ groups, DigitPair g) ∧
    s = "SHA256:" ++ String.ofList ([':'].intercalate groups)

/-- The fingerprint that shows a digest. -/
def digestText (digest : Bytes) : String := String.ofList (fingerprintLabel ++ hexPairs digest)

/-- The octets that a fingerprint shows: what its digits stand for, without the label and the
colons. -/
def shownOctets? (s : String) : Option Bytes := do
  let shown ← s.toList.dropPrefix? fingerprintLabel
  Text.Hex.decode? (shown.filter (· ≠ ':'))

theorem fingerprint_eq_digestText (content : Bytes) :
    fingerprint content = digestText (Crypto.sha256 content) := rfl

/-! ### Pairs of digits -/

theorem capitalDigit_upper : ∀ n < 16, CapitalDigit (Text.Hex.upper n) := by decide

theorem exists_upper_of_capitalDigit {c : Char} (h : CapitalDigit c) :
    ∃ n < 16, c = Text.Hex.upper n := by
  rw [← Char.ofNat_toNat c]
  rcases h with ⟨hle, hge⟩ | ⟨hle, hge⟩
  · have hlow : 48 ≤ c.toNat := hle
    have hhigh : c.toNat ≤ 57 := hge
    refine ⟨c.toNat - 48, by omega, ?_⟩
    rw [Text.Hex.upper, if_pos (by omega), Nat.add_sub_cancel' hlow]
  · have hlow : 65 ≤ c.toNat := hle
    have hhigh : c.toNat ≤ 70 := hge
    refine ⟨c.toNat - 55, by omega, ?_⟩
    rw [Text.Hex.upper, if_neg (by omega), Nat.add_sub_cancel' (by omega)]

/-- Every pair of digits is the notation of an octet, and no octet has another one. -/
theorem digitPair_iff {g : List Char} :
    DigitPair g ↔ ∃ b, g = Text.Hex.pair Text.Hex.upper b := by
  constructor
  · rintro ⟨a, b, rfl, ha, hb⟩
    obtain ⟨m, hm, rfl⟩ := exists_upper_of_capitalDigit ha
    obtain ⟨n, hn, rfl⟩ := exists_upper_of_capitalDigit hb
    have hvalue : (UInt8.ofNat (m * 16 + n)).toNat = m * 16 + n := by
      rw [UInt8.toNat_ofNat', Nat.mod_eq_of_lt (by omega)]
    have hhigh : (m * 16 + n) / 16 = m := by omega
    have hlow : (m * 16 + n) % 16 = n := by omega
    exact ⟨UInt8.ofNat (m * 16 + n), by rw [Text.Hex.pair, hvalue, hhigh, hlow]⟩
  · rintro ⟨b, rfl⟩
    have hb : b.toNat < 256 := b.toNat_lt
    exact ⟨_, _, rfl, capitalDigit_upper _ (by omega), capitalDigit_upper _ (by omega)⟩

theorem colon_not_mem_pair (b : UInt8) : ':' ∉ Text.Hex.pair Text.Hex.upper b := by
  intro h
  obtain ⟨c, d, hpair, hc, hd⟩ := digitPair_iff.mpr ⟨b, rfl⟩
  rw [hpair, List.mem_cons, List.mem_singleton] at h
  rcases h with rfl | rfl
  · exact absurd hc (by decide)
  · exact absurd hd (by decide)

/-! ### Digests -/

theorem hexPairs_eq_intercalate (bs : Bytes) :
    hexPairs bs = [':'].intercalate (bs.map (Text.Hex.pair Text.Hex.upper)) := by
  fun_induction hexPairs bs with
  | case1 => rfl
  | case2 b => simp [List.intercalate]
  | case3 b r hr ih =>
    obtain ⟨c, r, rfl⟩ := List.exists_cons_of_ne_nil hr
    rw [ih]
    simp [List.intercalate]

/-- Without the colons, the digits are those of the octets one after the other. -/
theorem filter_hexPairs (bs : Bytes) :
    (hexPairs bs).filter (· ≠ ':') = Text.Hex.encodeWith Text.Hex.upper bs := by
  have hpair (b : UInt8) : (Text.Hex.pair Text.Hex.upper b).filter (· ≠ ':') =
      Text.Hex.pair Text.Hex.upper b := by
    rw [List.filter_eq_self]
    intro c hc
    exact decide_eq_true (ne_of_mem_of_not_mem hc (colon_not_mem_pair b))
  fun_induction hexPairs bs with
  | case1 => rfl
  | case2 b => rw [hpair, Text.Hex.encodeWith, List.flatMap_singleton]
  | case3 b r hr ih =>
    rw [List.filter_append, List.filter_cons_of_neg (by simp), hpair, ih]
    rfl

theorem digestText_eq (digest : Bytes) :
    digestText digest =
      "SHA256:" ++
        String.ofList ([':'].intercalate (digest.map (Text.Hex.pair Text.Hex.upper))) := by
  rw [digestText, String.ofList_append, hexPairs_eq_intercalate]
  rfl

/-- The texts of the documented form are those that show a digest of 32 octets. -/
theorem isFingerprint_iff {s : String} :
    IsFingerprint s ↔ ∃ digest : Bytes, digest.length = 32 ∧ s = digestText digest := by
  constructor
  · rintro ⟨groups, hlength, hpairs, rfl⟩
    -- Each group shows an octet, so the groups are what a list of octets is written as.
    have hrange : groups ∈ Set.range (List.map (Text.Hex.pair Text.Hex.upper)) := by
      rw [Set.range_list_map]
      intro g hg
      obtain ⟨b, rfl⟩ := digitPair_iff.mp (hpairs g hg)
      exact ⟨b, rfl⟩
    obtain ⟨digest, rfl⟩ := hrange
    exact ⟨digest, by rwa [List.length_map] at hlength, (digestText_eq digest).symm⟩
  · rintro ⟨digest, hlength, rfl⟩
    refine ⟨_, (List.length_map _).trans hlength, ?_, digestText_eq digest⟩
    intro g hg
    obtain ⟨b, -, rfl⟩ := List.mem_map.mp hg
    exact digitPair_iff.mpr ⟨b, rfl⟩

theorem shownOctets?_digestText (digest : Bytes) :
    shownOctets? (digestText digest) = some digest := by
  have hdrop : (fingerprintLabel ++ hexPairs digest).dropPrefix? fingerprintLabel =
      some (hexPairs digest) := List.dropPrefix?_append_of_beq _ (beq_self_eq_true _)
  rw [shownOctets?, digestText, String.toList_ofList, hdrop]
  change Text.Hex.decode? ((hexPairs digest).filter (· ≠ ':')) = some digest
  rw [filter_hexPairs, Text.Hex.decode?_encodeWith Text.Hex.value?_upper]

theorem digestText_inj {d e : Bytes} : digestText d = digestText e ↔ d = e := by
  refine ⟨fun h => ?_, congrArg digestText⟩
  have hread := shownOctets?_digestText d
  rw [h, shownOctets?_digestText] at hread
  exact (Option.some.inj hread).symm

/-- **Fingerprints identify digests.** The fingerprint of any octets has the documented form, and
its digits read back as their digest. So two fingerprints are equal exactly if the digests are, and
every text of the documented form shows exactly one digest of 32 octets. -/
theorem fingerprints_identify_digests :
    (∀ content, IsFingerprint (fingerprint content)) ∧
    (∀ content, shownOctets? (fingerprint content) = some (Crypto.sha256 content)) ∧
    (∀ content content', fingerprint content = fingerprint content' ↔
      Crypto.sha256 content = Crypto.sha256 content') ∧
    ∀ s, IsFingerprint s ↔ ∃! digest : Bytes, digest.length = 32 ∧ s = digestText digest := by
  refine ⟨fun content => ?_, fun content => ?_, fun content content' => ?_, fun s => ?_⟩
  · exact isFingerprint_iff.mpr ⟨_, Crypto.length_sha256 content, fingerprint_eq_digestText content⟩
  · rw [fingerprint_eq_digestText, shownOctets?_digestText]
  · rw [fingerprint_eq_digestText, fingerprint_eq_digestText, digestText_inj]
  · refine isFingerprint_iff.trans ⟨?_, ExistsUnique.exists⟩
    rintro ⟨digest, hlength, rfl⟩
    exact ⟨digest, ⟨hlength, rfl⟩, fun other h => (digestText_inj.mp h.2).symm⟩

/-- Zeros in front are kept. -/
example : digestText [0x00, 0x0A, 0xF0] = "SHA256:00:0A:F0" := by decide

end GatewayAgent
