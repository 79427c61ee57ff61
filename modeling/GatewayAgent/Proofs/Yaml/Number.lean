import GatewayAgent.Yaml.Node
import Mathlib.Data.List.Basic

/-!
# Numbers in YAML

A number below `2 ^ 64` that is written in decimal reads back (`asNumber_plain_toString`). Its
numeral has digits only, so it carries no sign and no mark of another base, and there is no zero in
front unless it is the zero itself (`head?_toDigits_ne_zero`).
-/

namespace GatewayAgent.Yaml.Node

variable {cs : List Char} {n : Nat}

/-! ### Numerals of digits -/

theorem toNat_of_isDigit {c : Char} (h : c.isDigit = true) : 48 ≤ c.toNat ∧ c.toNat ≤ 57 := by
  simpa [Char.isDigit, UInt32.le_iff_toNat_le] using h

theorem value?_of_isDigit {c : Char} (h : c.isDigit = true) :
    (Text.Hex.value? c).filter (· < 10) = some (c.toNat - 48) := by
  obtain ⟨hle, hge⟩ := toNat_of_isDigit h
  have hrange : ('0' ≤ c && c ≤ '9') = true := by
    simpa [Char.le_def, UInt32.le_iff_toNat_le] using ⟨hle, hge⟩
  rw [Text.Hex.value?, if_pos hrange, Option.filter_some, if_pos (by simp; omega)]

theorem mapM_value?_of_digits (h : ∀ c ∈ cs, c.isDigit = true) :
    (cs.mapM fun c => (Text.Hex.value? c).filter (· < 10)) =
      some (cs.map fun c => c.toNat - 48) := by
  induction cs with
  | nil => rfl
  | cons c cs ih =>
    obtain ⟨hc, hcs⟩ := List.forall_mem_cons.mp h
    rw [List.mapM_cons, value?_of_isDigit hc, ih hcs]
    rfl

/-- A numeral of digits is read from the left. -/
theorem numeral?_of_digits (hne : cs ≠ []) (h : ∀ c ∈ cs, c.isDigit = true) :
    numeral? 10 cs = some (Nat.ofDigitChars 10 cs 0) := by
  rw [numeral?, if_neg (by simpa using hne), mapM_value?_of_digits h, Option.map_some,
    List.foldl_map, Nat.ofDigitChars]
  simp only [Nat.mul_comm]
  rfl

/-- Digits are no mark of another base. -/
theorem basedNumeral?_of_digits (h : ∀ c ∈ cs, c.isDigit = true) : basedNumeral? cs = none := by
  rw [basedNumeral?.eq_def]
  split
  · exact absurd (h 'x' (by simp)) (by decide)
  · exact absurd (h 'o' (by simp)) (by decide)
  · exact absurd (h 'b' (by simp)) (by decide)
  · rfl

/-! ### Decimal numbers -/

/-- There is no zero in front of a number. -/
theorem head?_toDigits_ne_zero (h : 0 < n) : (Nat.toDigits 10 n).head? ≠ some '0' := by
  induction n using Nat.strongRecOn with
  | ind n ih =>
    by_cases hsmall : n < 10
    · have hdigit : ∀ d < 10, 0 < d → (Nat.toDigits 10 d).head? ≠ some '0' := by decide
      exact hdigit n hsmall h
    · rw [Nat.toDigits_of_base_le (by decide) (by omega),
        List.head?_append_of_ne_nil _ Nat.toDigits_ne_nil]
      exact ih (n / 10) (by omega) (by omega)

theorem numberOfText_toString (n : Nat) : numberOfText (toString n) = some n := by
  have hdigits : ∀ c ∈ Nat.toDigits 10 n, c.isDigit = true := fun c hc =>
    Nat.isDigit_of_mem_toDigits (by decide) (by decide) hc
  have hunsigned : (Nat.toDigits 10 n).head? ≠ some '+' := fun hhead =>
    absurd (hdigits '+' (List.mem_of_mem_head? hhead)) (by decide)
  have hleading :
      (decide (1 < (Nat.toDigits 10 n).length) && (Nat.toDigits 10 n).head? = some '0') =
        false := by
    rcases Nat.eq_zero_or_pos n with rfl | hpos
    · decide
    · simp [head?_toDigits_ne_zero hpos]
  have htext : (toString n).toList = Nat.toDigits 10 n := by
    rw [Nat.toString_eq_repr, Nat.repr_eq_ofList_toDigits, String.toList_ofList]
  rw [numberOfText, htext, if_neg hunsigned, basedNumeral?_of_digits hdigits, hleading,
    if_neg Bool.false_ne_true, numeral?_of_digits Nat.toDigits_ne_nil hdigits,
    Nat.ofDigitChars_toDigits (by decide) (by decide)]

/-- A number that is written plainly reads back. -/
theorem asNumber_plain_toString (n : UInt64) : (plain (toString n.toNat)).asNumber = some n := by
  have hbound : n.toNat < Nat.pow 2 64 := n.toNat_lt
  have hplain : WrittenPlainly "int" .plain none = true := rfl
  rw [plain, asNumber, if_pos hplain, numberOfText_toString, Option.filter_some,
    if_pos (decide_eq_true hbound), Option.map_some, UInt64.ofNat_toNat]

end GatewayAgent.Yaml.Node
