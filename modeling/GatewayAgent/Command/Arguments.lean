import GatewayAgent.Text.Blank
import GatewayAgent.Text.Quoted

/-!
# Command arguments

The check that every argument of a command passes before anything runs. It refuses what a shell
would interpret, control characters other than the tab, steps to a parent directory, a leading
dash, and long arguments. The faults are looked for in that fixed order, length first, and the
first argument with a fault decides.

Main statements: `argumentFault?_eq_none_iff`, which arguments pass;
`argumentsFault?_eq_none_iff`, a list passes exactly if each of its members does.
-/

namespace GatewayAgent

/-- The length in bytes that an argument may have. -/
def longestArgument : Nat := 256

/-- The characters that a shell would interpret. -/
def shellMetacharacters : List Char :=
  [';', '&', '|', '>', '<', '$', '(', ')', '\x7b', '\x7d', '[', ']', '\x60']

/-- Why an argument is refused. -/
inductive ArgumentFault where
  | tooLong
  | shellMetacharacter (argument : String)
  | controlCharacter
  | pathTraversal (argument : String)
  | leadingDash (argument : String)
  deriving DecidableEq, Repr

namespace ArgumentFault

/-- The wording of a fault. -/
def message : ArgumentFault → String
  | .tooLong => "argument exceeds " ++ toString longestArgument ++ " bytes"
  | .shellMetacharacter a => "argument contains shell metacharacters: " ++ Text.quote a
  | .controlCharacter => "argument contains control characters"
  | .pathTraversal a => "argument contains path traversal: " ++ Text.quote a
  | .leadingDash a => "argument looks like a flag: " ++ Text.quote a

end ArgumentFault

/-- Whether `../` occurs in a text. -/
def hasParentStep : List Char → Bool
  | [] => false
  | c :: r => ['.', '.', '/'].isPrefixOf (c :: r) || hasParentStep r

/-- The first fault of an argument, if it has one. -/
def argumentFault? (a : String) : Option ArgumentFault :=
  if longestArgument < a.utf8ByteSize then some .tooLong
  else if a.toList.any (shellMetacharacters.contains ·) then some (.shellMetacharacter a)
  else if a.toList.any (fun c => Text.Control c && c != '\t') then some .controlCharacter
  else if hasParentStep a.toList then some (.pathTraversal a)
  else if a.toList.head? = some '-' then some (.leadingDash a)
  else none

/-- The first fault among several arguments, in their order. -/
def argumentsFault? (args : List String) : Option ArgumentFault := args.findSome? argumentFault?

/-- What an argument without a fault is. -/
theorem argumentFault?_eq_none_iff {a : String} :
    argumentFault? a = none ↔
      a.utf8ByteSize ≤ longestArgument ∧
        (∀ c ∈ a.toList, c ∉ shellMetacharacters ∧ (Text.Control c = true → c = '\t')) ∧
        hasParentStep a.toList = false ∧ a.toList.head? ≠ some '-' := by
  unfold argumentFault?
  constructor
  · intro h
    split at h <;> try contradiction
    split at h <;> try contradiction
    split at h <;> try contradiction
    split at h <;> try contradiction
    split at h <;> try contradiction
    next h1 h2 h3 h4 h5 =>
      refine ⟨Nat.le_of_not_lt h1, fun c hc => ⟨fun hm => h2 ?_, fun hctl => ?_⟩, ?_, h5⟩
      · exact List.any_eq_true.2 ⟨c, hc, by simpa using hm⟩
      · by_cases ht : c = '\t'
        · exact ht
        · exact absurd (List.any_eq_true.2 ⟨c, hc, by simp [hctl, ht]⟩) h3
      · simpa using h4
  · rintro ⟨h1, h2, h3, h4⟩
    rw [if_neg (Nat.not_lt.2 h1), if_neg, if_neg, if_neg (by simp [h3]), if_neg h4]
    · intro h
      obtain ⟨c, hc, hp⟩ := List.any_eq_true.1 h
      simp only [Bool.and_eq_true, bne_iff_ne, ne_eq] at hp
      exact hp.2 ((h2 c hc).2 hp.1)
    · intro h
      obtain ⟨c, hc, hp⟩ := List.any_eq_true.1 h
      exact (h2 c hc).1 (by simpa using hp)

/-- A list of arguments passes exactly if each of its members does. -/
theorem argumentsFault?_eq_none_iff {args : List String} :
    argumentsFault? args = none ↔ ∀ a ∈ args, argumentFault? a = none := by
  simp [argumentsFault?, List.findSome?_eq_none_iff]

end GatewayAgent
