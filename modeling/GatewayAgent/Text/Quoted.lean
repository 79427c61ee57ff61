import GatewayAgent.Text.Printable

/-!
# Quoted text

How a text is shown inside a message: between double quotes, with a short escape for the
characters that have one and the code point in braces for the rest of what cannot be seen.
-/

namespace GatewayAgent.Text

/-- A number in lower-case hexadecimal, without leading zeros. -/
def hexDigits (n : Nat) : List Char := Nat.toDigits 16 n

/-- The written form of one character between double quotes. -/
def escapeChar (c : Char) : List Char :=
  if c = '\x00' then ['\\', '0']
  else if c = '\t' then ['\\', 't']
  else if c = '\r' then ['\\', 'r']
  else if c = '\n' then ['\\', 'n']
  else if c = '"' then ['\\', '"']
  else if c = '\\' then ['\\', '\\']
  else if Printable c then [c]
  else ['\\', 'u', '\x7b'] ++ hexDigits c.toNat ++ ['\x7d']

/-- The written form of a text: a double quote, its characters escaped, a double quote. -/
def quoteChars (cs : List Char) : List Char :=
  '"' :: cs.flatMap escapeChar ++ ['"']

/-- The written form of a text. -/
def quote (s : String) : String := String.ofList (quoteChars s.toList)

/-- The written form of a text that may be absent. -/
def quoteOption : Option String → String
  | none => "None"
  | some s => "Some(" ++ quote s ++ ")"

end GatewayAgent.Text
