import GatewayAgent.Certificate.Pem
import GatewayAgent.Proofs.Text.Utf8
import Mathlib.Data.List.Count

/-!
# Telling texts in armour apart

Octets in armour have no blanks among their digits, so the blanks of such a text are those of its
label and one in each of the two lines around (`count_blank_write`). A private key for a curve has a
label with blanks and a certificate has not, and so the text of a key is no part of the text of a
certificate (`curveKey_not_infix_certificate`).
-/

namespace GatewayAgent

theorem Base64.mem_of_mem_encode {bs : Bytes} {d : UInt8} (h : d ∈ encode bs) :
    d ∈ padding :: alphabet := by
  rw [encode, List.mem_append] at h
  rcases h with h | h
  · obtain ⟨n, -, rfl⟩ := List.mem_map.mp h
    rw [digit, List.getD_eq_getElem?_getD]
    cases hn : alphabet[n]? with
    | none => exact List.mem_cons_self
    | some d => exact List.mem_cons_of_mem _ (List.mem_of_getElem? hn)
  · rw [List.eq_of_mem_replicate h]
    exact List.mem_cons_self

namespace Pem

theorem mem_of_mem_lines {count : Nat} {cs : List Char} {c : Char} (h : c ∈ lines count cs) :
    c = '\n' ∨ c ∈ cs := by
  induction count generalizing cs with
  | zero => simp [lines] at h
  | succ count ih =>
    rw [lines] at h
    split_ifs at h
    · simp at h
    · rw [List.mem_append, List.mem_cons] at h
      rcases h with h | rfl | h
      · exact .inr (List.mem_of_mem_take h)
      · exact .inl rfl
      · exact (ih h).imp_right List.mem_of_mem_drop

/-- There is no blank among the digits. -/
theorem blank_not_mem_lines (count : Nat) (content : Bytes) :
    32 ∉ Text.encode
      (String.ofList (lines count ((Base64.encode content).map fun d => Char.ofNat d.toNat))) := by
  rw [Text.encode_ofList, List.mem_flatMap]
  rintro ⟨c, hc, hblank⟩
  rcases mem_of_mem_lines hc with rfl | hc
  · exact absurd hblank (by decide)
  · obtain ⟨d, hd, rfl⟩ := List.mem_map.mp hc
    have hnone : ∀ d ∈ Base64.padding :: Base64.alphabet,
        32 ∉ String.utf8EncodeChar (Char.ofNat d.toNat) := by decide +kernel
    exact hnone d (Base64.mem_of_mem_encode hd) hblank

theorem encode_write (b : Block) :
    ∃ digits, 32 ∉ digits ∧
      Text.encode (write b) =
        Text.encode opening ++ Text.encode b.label ++ Text.encode (dashes ++ "\n") ++ digits ++
          Text.encode closing ++ Text.encode b.label ++ Text.encode (dashes ++ "\n") := by
  refine ⟨_, blank_not_mem_lines (Base64.encode b.content).length b.content, ?_⟩
  rw [write]
  simp only [Text.encode_append, List.append_assoc, List.length_map]

theorem count_blank_write (b : Block) :
    (Text.encode (write b)).count 32 = 2 * (Text.encode b.label).count 32 + 2 := by
  obtain ⟨digits, hdigits, heq⟩ := encode_write b
  have hopening : (Text.encode opening).count 32 = 1 := by decide +kernel
  have hclosing : (Text.encode closing).count 32 = 1 := by decide +kernel
  have hend : (Text.encode (dashes ++ "\n")).count 32 = 0 := by decide +kernel
  rw [heq]
  simp only [List.count_append, hopening, hclosing, hend, List.count_eq_zero_of_not_mem hdigits]
  omega

/-- Where there is no blank, there is no block. -/
theorem write_not_infix {content : Bytes} (h : 32 ∉ content) (b : Block) :
    ¬ Text.encode (write b) <:+: content := by
  intro hpart
  have hcount := count_blank_write b
  have hmem : 32 ∈ Text.encode (write b) := List.count_pos_iff.mp (by omega)
  exact h (hpart.subset hmem)

theorem curveKey_not_infix_certificate (key cert : Bytes) :
    ¬ Text.encode (write ⟨curveKey, key⟩) <:+: Text.encode (write ⟨certificate, cert⟩) := by
  intro h
  have hle := h.sublist.count_le 32
  have hkey : (Text.encode curveKey).count 32 = 2 := by decide +kernel
  have hcert : (Text.encode certificate).count 32 = 0 := by decide +kernel
  rw [count_blank_write, count_blank_write, hkey, hcert] at hle
  omega

end Pem

end GatewayAgent
