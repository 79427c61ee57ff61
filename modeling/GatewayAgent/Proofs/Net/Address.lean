import GatewayAgent.Net.Address
import Mathlib.Data.List.Basic

/-!
# The characters of an address

Whatever reads an address takes hexadecimal digits, dots and colons off the front of a text and
nothing else (`Reads`): this holds of the single characters and of the runs of digits, and passes
on to what is read one after the other (`Reads.bind`). So every character of a text that is an
address is one of these (`addressChar_of_parse?`).
-/

namespace GatewayAgent

/-- A character that an address can have: a hexadecimal digit, a dot or a colon. -/
def AddressChar (c : Char) : Bool := (Address.digitIn 16 c).isSome || c == '.' || c == ':'

namespace Address

/-- The rest of a text, when only characters of addresses were taken off its front. -/
def Takes (cs rest : List Char) : Prop :=
  ∃ taken, cs = taken ++ rest ∧ ∀ c ∈ taken, AddressChar c = true

namespace Takes

variable {cs ds es : List Char} {c : Char}

protected theorem refl (cs : List Char) : Takes cs cs := ⟨[], rfl, by simp⟩

theorem cons (hc : AddressChar c = true) (h : Takes cs ds) : Takes (c :: cs) ds := by
  obtain ⟨taken, rfl, htaken⟩ := h
  exact ⟨c :: taken, rfl, List.forall_mem_cons.mpr ⟨hc, htaken⟩⟩

protected theorem trans (h : Takes cs ds) (h' : Takes ds es) : Takes cs es := by
  obtain ⟨taken, rfl, htaken⟩ := h
  obtain ⟨taken', rfl, htaken'⟩ := h'
  exact ⟨taken ++ taken', (List.append_assoc ..).symm,
    List.forall_mem_append.mpr ⟨htaken, htaken'⟩⟩

/-- What is taken to the end is made of address characters. -/
theorem forall_mem (h : Takes cs []) : ∀ c ∈ cs, AddressChar c = true := by
  obtain ⟨taken, rfl, htaken⟩ := h
  rwa [List.append_nil]

end Takes

/-! ### Readers -/

/-- The reader takes characters of addresses only. -/
def Reads {α : Type} (p : Reader α) : Prop := ∀ cs v rest, p cs = some (v, rest) → Takes cs rest

section Readers

variable {α β : Type} {p : Reader α}

/-- A reader that takes nothing reads. -/
theorem reads_pure (v : α) : Reads fun cs => some (v, cs) := by
  rintro cs - - ⟨⟩
  exact .refl cs

/-- Two readers in sequence read. -/
theorem Reads.bind (hp : Reads p) {f : α → Reader β} (hf : ∀ v, Reads (f v)) :
    Reads fun cs => (p cs).bind fun x => f x.1 x.2 := by
  intro cs w rest h
  obtain ⟨⟨v, ds⟩, hv, hw⟩ := Option.bind_eq_some_iff.mp h
  exact (hp cs v ds hv).trans (hf v ds w rest hw)

/-- What is done with the value does not change what is taken. -/
theorem Reads.map (hp : Reads p) (f : α → β) :
    Reads fun cs => (p cs).map fun x => (f x.1, x.2) := by
  intro cs w rest h
  obtain ⟨⟨v, ds⟩, hv, hw⟩ := Option.map_eq_some_iff.mp h
  cases hw
  exact hp cs v ds hv

/-- An address character reads. -/
theorem reads_char {c : Char} (hc : AddressChar c = true) : Reads (char c) := by
  rintro (_ | ⟨d, r⟩) v rest h
  · exact absurd h (by simp [char])
  · rw [char] at h
    split_ifs at h with hd
    cases h
    subst hd
    exact .cons hc (.refl r)

/-- A digit of any base up to sixteen is an address character. -/
theorem addressChar_of_digitIn {base n : Nat} {c : Char} (hbase : base ≤ 16)
    (h : digitIn base c = some n) : AddressChar c = true := by
  have hdigit : digitIn 16 c = some n := by
    rw [digitIn, Option.filter_eq_some_iff, decide_eq_true_eq] at h ⊢
    exact ⟨h.1, Nat.lt_of_lt_of_le h.2 hbase⟩
  simp [AddressChar, hdigit]

/-- A run of digits takes address characters only. -/
theorem takes_digitRun {base : Nat} (hbase : base ≤ 16) (acc count : Nat) (cs : List Char) :
    Takes cs (digitRun base acc count cs).2.2 := by
  induction cs generalizing acc count with
  | nil => exact .refl []
  | cons c r ih =>
    rw [digitRun]
    cases h : digitIn base c with
    | none => exact .refl (c :: r)
    | some n => exact .cons (addressChar_of_digitIn hbase h) (ih _ _)

/-- A number takes address characters only. -/
theorem reads_number {base : Nat} (hbase : base ≤ 16) (bound : Nat) (width : Option Nat)
    (leadingZero : Bool) : Reads (number base bound width leadingZero) := by
  intro cs v rest h
  simp only [number] at h
  split_ifs at h
  cases h
  exact takes_digitRun hbase 0 0 cs

theorem reads_octet : Reads octet := (reads_number (by decide) 256 (some 3) false).map UInt8.ofNat

theorem reads_ipv4 : Reads ipv4 := by
  have hdot : Reads (char '.') := reads_char (by decide)
  exact reads_octet.bind fun a => hdot.bind fun _ => reads_octet.bind fun b => hdot.bind fun _ =>
    reads_octet.bind fun c => hdot.bind fun _ => reads_octet.bind fun d =>
      reads_pure (Ipv4.mk a b c d)

/-- What stands between the groups is an address character. -/
theorem reads_separator (first : Bool) : Reads (separator first) := by
  cases first with
  | true => exact reads_pure ()
  | false => exact reads_char (by decide)

/-- Groups and what stands between them take address characters only. -/
theorem takes_groups (first : Bool) (limit : Nat) (cs : List Char) :
    Takes cs (groups first limit cs).2.2 := by
  have hgroup (first : Bool) : Reads fun cs =>
      (separator first cs).bind fun x => number 16 65536 (some 4) true x.2 :=
    (reads_separator first).bind fun _ => reads_number (by decide) 65536 (some 4) true
  have hembedded (first : Bool) : Reads fun cs => (separator first cs).bind fun x => ipv4 x.2 :=
    (reads_separator first).bind fun _ => reads_ipv4
  induction limit generalizing first cs with
  | zero => exact .refl cs
  | succ limit ih =>
    rw [groups]
    split
    · next v rest h =>
      split_ifs at h
      exact hembedded first cs v rest h
    · split
      · exact .refl cs
      · next g rest h => exact (hgroup first cs g rest h).trans (ih false rest)

/-- An address of sixteen octets takes address characters only. -/
theorem reads_ipv6 : Reads ipv6 := by
  intro cs v rest h
  have hcolon : Reads (char ':') := reads_char (by decide)
  have hhead := takes_groups true 8 cs
  simp only [ipv6] at h
  generalize groups true 8 cs = g at h hhead
  obtain ⟨head, embedded, middle⟩ := g
  split_ifs at h
  · cases h
    exact hhead
  · -- After the gap there are two colons and further groups.
    have htail : Reads fun cs =>
        some (fill head (groups true (7 - head.length) cs).1,
          (groups true (7 - head.length) cs).2.2) := by
      rintro ds - - ⟨⟩
      exact takes_groups true _ ds
    exact hhead.trans ((hcolon.bind fun _ => hcolon.bind fun _ => htail) middle v rest h)

/-- A text that is read as a whole is made of address characters. -/
theorem addressChar_of_whole (hp : Reads p) {s : String} {v : α} (h : whole p s = some v) :
    ∀ c ∈ s.toList, AddressChar c = true := by
  rw [whole] at h
  split at h
  · next w hw => exact (hp s.toList w [] hw).forall_mem
  · exact absurd h (by simp)

end Readers

end Address

/-- An address of four octets is written in address characters. -/
theorem Ipv4.addressChar_of_parse? {s : String} {v : Ipv4} (h : Ipv4.parse? s = some v) :
    ∀ c ∈ s.toList, AddressChar c = true :=
  Address.addressChar_of_whole Address.reads_ipv4 h

/-- The text of an address has characters of addresses only. -/
theorem IpAddress.addressChar_of_parse? {s : String} {v : IpAddress}
    (h : IpAddress.parse? s = some v) : ∀ c ∈ s.toList, AddressChar c = true := by
  rw [IpAddress.parse?] at h
  cases hv4 : Ipv4.parse? s with
  | some w => exact Ipv4.addressChar_of_parse? hv4
  | none =>
    rw [hv4] at h
    obtain ⟨w, hw, -⟩ := Option.map_eq_some_iff.mp h
    exact Address.addressChar_of_whole Address.reads_ipv6 hw

/-- Characters of addresses stand between the dot and the letter f. -/
theorem toNat_of_addressChar {c : Char} (h : AddressChar c = true) :
    0x2E ≤ c.toNat ∧ c.toNat ≤ 0x66 := by
  simp only [AddressChar, Bool.or_eq_true, beq_iff_eq] at h
  rcases h with (h | rfl) | rfl
  · obtain ⟨n, hn⟩ := Option.isSome_iff_exists.mp h
    rw [Address.digitIn, Option.filter_eq_some_iff] at hn
    have hranges := hn.1
    have h0 : '0'.toNat = 0x30 := rfl
    have h9 : '9'.toNat = 0x39 := rfl
    have ha : 'a'.toNat = 0x61 := rfl
    have hf : 'f'.toNat = 0x66 := rfl
    have hA : 'A'.toNat = 0x41 := rfl
    have hF : 'F'.toNat = 0x46 := rfl
    split_ifs at hranges <;> omega
  · decide
  · decide

end GatewayAgent
