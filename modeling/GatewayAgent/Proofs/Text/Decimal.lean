import GatewayAgent.Text.Decimal
import Mathlib.Data.Nat.Digits.Defs

/-!
# Numerals and their digits

A run of ASCII digits is the written form of a list of decimal digits (`exists_map_digitChar`), and
reading it from the left gives their value as a numeral in base ten (`digitsValue_map_digitChar`).
So the value is bounded by the number of digits (`digitsValue_lt`).
-/

namespace GatewayAgent.Text

theorem toNat_of_digit {c : Char} (h : Digit c = true) : 0x30 ≤ c.toNat ∧ c.toNat ≤ 0x39 := by
  simpa [Digit, Char.le_def, UInt32.le_iff_toNat_le] using h

/-- The character of a decimal digit. -/
def digitChar (d : Fin 10) : Char := Char.ofNat ('0'.toNat + d)

theorem digit_digitChar (d : Fin 10) : Digit (digitChar d) = true := by
  revert d
  decide

theorem digitValue_digitChar (d : Fin 10) : digitValue (digitChar d) = d := by
  revert d
  decide

theorem exists_digitChar {c : Char} (h : Digit c = true) : ∃ d, c = digitChar d := by
  obtain ⟨hle, hge⟩ := toNat_of_digit h
  have hsum : '0'.toNat + (c.toNat - 0x30) = c.toNat := by
    change 0x30 + (c.toNat - 0x30) = c.toNat
    omega
  refine ⟨⟨c.toNat - 0x30, by omega⟩, ?_⟩
  rw [digitChar, hsum, Char.ofNat_toNat]

theorem exists_map_digitChar {cs : List Char} (h : ∀ c ∈ cs, Digit c = true) :
    ∃ ds : List (Fin 10), cs = ds.map digitChar := by
  induction cs with
  | nil => exact ⟨[], rfl⟩
  | cons c cs ih =>
    obtain ⟨hc, hcs⟩ := List.forall_mem_cons.mp h
    obtain ⟨d, rfl⟩ := exists_digitChar hc
    obtain ⟨ds, rfl⟩ := ih hcs
    exact ⟨d :: ds, rfl⟩

/-- Reading digits from the left gives their value as a numeral. -/
theorem digitsValue_map_digitChar (ds : List (Fin 10)) :
    digitsValue 0 (ds.map digitChar) = Nat.ofDigits 10 (ds.reverse.map Fin.val) := by
  rw [digitsValue, List.foldl_map, Nat.ofDigits_eq_foldr, List.map_reverse, List.foldr_reverse,
    List.foldl_map]
  simp only [digitValue_digitChar, Nat.cast_id, Nat.add_comm]

theorem digitsValue_lt {cs : List Char} (h : ∀ c ∈ cs, Digit c = true) :
    digitsValue 0 cs < 10 ^ cs.length := by
  obtain ⟨ds, rfl⟩ := exists_map_digitChar h
  have hlt : Nat.ofDigits 10 (ds.reverse.map Fin.val) < 10 ^ (ds.reverse.map Fin.val).length := by
    refine Nat.ofDigits_lt_base_pow_length (by decide) fun x hx => ?_
    obtain ⟨d, -, rfl⟩ := List.mem_map.mp hx
    exact d.isLt
  rw [digitsValue_map_digitChar]
  simpa using hlt

end GatewayAgent.Text
