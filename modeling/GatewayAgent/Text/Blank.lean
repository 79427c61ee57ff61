/-!
# Blank and control characters

Two character classes and trimming. `Blank` is the Unicode property *White_Space*, `Control` the
general category *Cc*. Trimming removes the blank characters at both ends of a text and nothing
else.
-/

namespace GatewayAgent.Text

/-- A character with the Unicode property *White_Space*. -/
def Blank (c : Char) : Bool :=
  let n := c.toNat
  (0x09 ≤ n && n ≤ 0x0D) || n == 0x20 || n == 0x85 || n == 0xA0 || n == 0x1680 ||
    (0x2000 ≤ n && n ≤ 0x200A) || n == 0x2028 || n == 0x2029 || n == 0x202F || n == 0x205F ||
    n == 0x3000

/-- A character of the general category *Cc*: the C0 and C1 controls and DEL. -/
def Control (c : Char) : Bool :=
  c.toNat < 0x20 || (0x7F ≤ c.toNat && c.toNat < 0xA0)

/-- Everything after the leading blanks. -/
def dropBlank (cs : List Char) : List Char := cs.dropWhile Blank

/-- The characters without the blanks at both ends. -/
def trimChars (cs : List Char) : List Char :=
  (dropBlank (dropBlank cs).reverse).reverse

/-- The text without the blanks at both ends. -/
def trim (s : String) : String := String.ofList (trimChars s.toList)

/-- A text of blanks only. -/
def isBlank (s : String) : Bool := s.toList.all Blank

end GatewayAgent.Text
