import GatewayAgent.Text.Utf8
import Mathlib.Data.List.Basic

/-!
# The octets of a text

Every character of a text has its own octets, one after the other (`encode_ofList`), so the octets
of joined texts are joined (`encode_append`). A character of ASCII is one octet
(`encode_of_ascii`), any other ends in a continuation octet.

Of two characters the later one has the later octets, whatever follows them, so texts have the
order of their octets (`encode_lt_encode`).
-/

namespace GatewayAgent.Text

private theorem toList_loop (bs : ByteArray) (i : Nat) (r : Bytes) :
    ByteArray.toList.loop bs i r = r.reverse ++ bs.data.toList.drop i := by
  rw [ByteArray.toList.loop]
  split_ifs with h
  · have hi : i < bs.data.toList.length := h
    have hget : bs.get! i = bs.data.toList[i] := getElem!_pos bs.data i h
    rw [toList_loop bs (i + 1), List.drop_eq_getElem_cons hi, hget]
    simp
  · have hi : bs.data.toList.length ≤ i := Nat.not_lt.mp h
    rw [List.drop_eq_nil_of_le hi, List.append_nil]
termination_by bs.size - i

theorem encode_ofList (cs : List Char) :
    encode (String.ofList cs) = cs.flatMap String.utf8EncodeChar := by
  change ByteArray.toList.loop cs.utf8Encode 0 [] = _
  rw [toList_loop]
  simp [List.utf8Encode]

theorem encode_append (s t : String) : encode (s ++ t) = encode s ++ encode t := by
  have happend : s ++ t = String.ofList (s.toList ++ t.toList) := by
    rw [String.ofList_append, String.ofList_toList, String.ofList_toList]
  rw [happend, encode_ofList, List.flatMap_append, ← encode_ofList, ← encode_ofList,
    String.ofList_toList, String.ofList_toList]

/-! ### ASCII -/

theorem utf8EncodeChar_of_lt {c : Char} (h : c.toNat < 0x80) :
    String.utf8EncodeChar c = [UInt8.ofNat c.toNat] := by
  have hle : c.val.toNat ≤ 127 := Nat.le_of_lt_succ h
  rw [String.utf8EncodeChar, if_pos hle]
  rfl

theorem encode_of_ascii {cs : List Char} (h : ∀ c ∈ cs, c.toNat < 0x80) :
    encode (String.ofList cs) = cs.map fun c => UInt8.ofNat c.toNat := by
  rw [encode_ofList]
  induction cs with
  | nil => rfl
  | cons c cs ih =>
    obtain ⟨hc, hcs⟩ := List.forall_mem_cons.mp h
    rw [List.flatMap_cons, utf8EncodeChar_of_lt hc, ih hcs]
    rfl

/-- A character beyond ASCII ends in a continuation octet, with others in front of it. -/
theorem exists_continuation_of_le {c : Char} (h : 0x80 ≤ c.toNat) :
    ∃ bs b, String.utf8EncodeChar c = bs ++ [b] ∧ bs ≠ [] ∧ Continuation b = true := by
  have hlow : ∀ r < 64, Continuation (UInt8.ofNat (r + 128)) = true := by decide
  have hlast : Continuation (UInt8.ofNat (c.val.toNat % 64 + 128)) = true :=
    hlow _ (Nat.mod_lt _ (by decide))
  have hgt : ¬c.val.toNat ≤ 127 := Nat.not_le.mpr h
  simp only [String.utf8EncodeChar, if_neg hgt]
  split_ifs
  · exact ⟨[_], _, rfl, List.cons_ne_nil _ _, hlast⟩
  · exact ⟨[_, _], _, rfl, List.cons_ne_nil _ _, hlast⟩
  · exact ⟨[_, _, _], _, rfl, List.cons_ne_nil _ _, hlast⟩

/-! ### Order -/

theorem toNat_val_lt (c : Char) : c.val.toNat < 0x110000 := by
  rcases c.valid with h | ⟨-, h⟩
  · exact Nat.lt_trans h (by decide)
  · exact h

/-- The octets of two characters differ before either ends. -/
theorem utf8EncodeChar_append_lt {c d : Char} (h : c < d) (xs ys : Bytes) :
    String.utf8EncodeChar c ++ xs < String.utf8EncodeChar d ++ ys := by
  have hlt : c.val.toNat < d.val.toNat := h
  have hmax := toNat_val_lt d
  simp only [String.utf8EncodeChar]
  generalize c.val.toNat = m at hlt
  generalize d.val.toNat = n at hlt hmax
  -- The first octet tells the lengths apart, and for equal lengths the digits in base 64 decide.
  split_ifs <;>
    simp (disch := omega) only [List.cons_append, List.nil_append, List.cons_lt_cons_iff,
      UInt8.lt_iff_toNat_lt, ← UInt8.toNat_inj, UInt8.toNat_ofNat', Nat.mod_eq_of_lt] <;>
    omega

private theorem flatMap_utf8EncodeChar_lt {cs ds : List Char} (h : cs < ds) :
    cs.flatMap String.utf8EncodeChar < ds.flatMap String.utf8EncodeChar := by
  induction cs generalizing ds with
  | nil =>
    cases ds with
    | nil => exact absurd h (List.not_lt_nil [])
    | cons d ds =>
      obtain ⟨b, r, hd⟩ := List.exists_cons_of_ne_nil (String.utf8EncodeChar_ne_nil (c := d))
      rw [List.flatMap_nil, List.flatMap_cons, hd]
      exact List.nil_lt_cons b _
  | cons c cs ih =>
    cases ds with
    | nil => exact absurd h (List.not_lt_nil _)
    | cons d ds =>
      rw [List.flatMap_cons, List.flatMap_cons]
      rcases List.cons_lt_cons_iff.mp h with hc | ⟨rfl, hcs⟩
      · exact utf8EncodeChar_append_lt hc _ _
      · exact List.append_left_lt (ih hcs)

theorem encode_lt_encode {s t : String} (h : s < t) : encode s < encode t := by
  rw [← String.ofList_toList (s := s), ← String.ofList_toList (s := t), encode_ofList,
    encode_ofList]
  exact flatMap_utf8EncodeChar_lt (String.lt_iff.mp h)

end GatewayAgent.Text
