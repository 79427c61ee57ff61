/-!
# Decimal numerals

Readers for unsigned decimal numerals. `digits?` takes a run of ASCII digits and nothing else;
`unsigned?` also accepts one leading plus sign and a bound on the value. Leading zeros are
allowed in both.
-/

namespace GatewayAgent.Text

/-- An ASCII decimal digit. -/
def Digit (c : Char) : Bool := '0' ≤ c && c ≤ '9'

/-- The value of an ASCII decimal digit. -/
def digitValue (c : Char) : Nat := c.toNat - '0'.toNat

/-- The value of a run of digits, most significant first, on top of `acc`. -/
def digitsValue (acc : Nat) (cs : List Char) : Nat :=
  cs.foldl (fun n c => 10 * n + digitValue c) acc

/-- The value of a non-empty text of ASCII digits. -/
def digits? (cs : List Char) : Option Nat :=
  if !cs.isEmpty && cs.all Digit then some (digitsValue 0 cs) else none

/-- The digits that stand behind an optional plus sign. -/
def unsign : List Char → List Char
  | '+' :: r => r
  | cs => cs

/-- The value of a numeral with an optional plus sign, if it is at most `bound`. -/
def unsigned? (bound : Nat) (cs : List Char) : Option Nat :=
  (digits? (unsign cs)).filter (· ≤ bound)

theorem digits?_eq_some_iff {cs : List Char} {n : Nat} :
    digits? cs = some n ↔ cs ≠ [] ∧ (∀ c ∈ cs, Digit c = true) ∧ digitsValue 0 cs = n := by
  simp [digits?, and_assoc]

end GatewayAgent.Text
