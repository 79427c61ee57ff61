import GatewayAgent.ControlPlane.Deadline
import GatewayAgent.Proofs.Text.Decimal
import GatewayAgent.Proofs.Text.Utf8
import Mathlib.Data.List.Induction

/-!
# Timeouts in headers

A caller writes how long it will wait as one to eight digits and the letter of a unit
(`WrittenTimeout`). Reading takes the last character off for the unit and the others for the number,
so it accepts exactly what can be written, and as the span that was meant
(`parseTimeout_eq_some_iff`).

A machine has the text as octets and computes in words. There a text could be cut inside a character
and a product could lose its leading bits; `readTimeout` has a fault for each. Neither happens:
reading the octets of a text comes to what reading its characters does (`readTimeout_encode`).
-/

namespace GatewayAgent

/-! ### Written timeouts -/

/-- The units of a timeout. -/
inductive TimeoutUnit where
  | hours
  | minutes
  | seconds
  | millis
  | micros
  | nanos

namespace TimeoutUnit

/-- The letter of a unit. -/
def letter : TimeoutUnit → Char
  | .hours => 'H'
  | .minutes => 'M'
  | .seconds => 'S'
  | .millis => 'm'
  | .micros => 'u'
  | .nanos => 'n'

/-- How many nanoseconds a unit has. -/
def length : TimeoutUnit → Nat
  | .hours => 3600 * 1000000000
  | .minutes => 60 * 1000000000
  | .seconds => 1000000000
  | .millis => 1000000
  | .micros => 1000
  | .nanos => 1

end TimeoutUnit

/-- A timeout as it is written: one to eight decimal digits, the most significant one first, and a
unit. -/
structure WrittenTimeout where
  digits : List (Fin 10)
  unit : TimeoutUnit
  digits_ne : digits ≠ []
  digits_le : digits.length ≤ 8

namespace WrittenTimeout

/-- The characters that are written. -/
def chars (w : WrittenTimeout) : List Char := w.digits.map Text.digitChar ++ [w.unit.letter]

/-- The octets that are written, one for each character. -/
def octets (w : WrittenTimeout) : Bytes := w.chars.map fun c => UInt8.ofNat c.toNat

/-- The span that is meant, the value of the numeral times the unit. -/
def span (w : WrittenTimeout) : Duration :=
  ⟨Nat.ofDigits 10 (w.digits.reverse.map Fin.val) * w.unit.length⟩

/-- Everything that is written is visible ASCII. -/
theorem visible_of_mem_chars {w : WrittenTimeout} {c : Char} (h : c ∈ w.chars) :
    0x20 ≤ c.toNat ∧ c.toNat < 0x7F := by
  rcases List.mem_append.mp h with h | h
  · obtain ⟨d, -, rfl⟩ := List.mem_map.mp h
    have := Text.toNat_of_digit (Text.digit_digitChar d)
    omega
  · rw [List.mem_singleton.mp h]
    cases w.unit <;> decide

end WrittenTimeout

/-! ### Reading characters -/

/-- A number and a letter make a span if the letter is that of a unit. -/
theorem timeoutSpan_eq_some_iff {n : Nat} {c : Char} {d : Duration} :
    timeoutSpan n c = some d ↔ ∃ u : TimeoutUnit, c = u.letter ∧ d = ⟨n * u.length⟩ := by
  constructor
  · intro h
    unfold timeoutSpan at h
    split at h <;> cases h
    · exact ⟨.hours, rfl, by simp [Duration.ofSecs, TimeoutUnit.length, Nat.mul_assoc]⟩
    · exact ⟨.minutes, rfl, by simp [Duration.ofSecs, TimeoutUnit.length, Nat.mul_assoc]⟩
    · exact ⟨.seconds, rfl, by simp [Duration.ofSecs, TimeoutUnit.length]⟩
    · exact ⟨.millis, rfl, by simp [Duration.ofMillis, TimeoutUnit.length]⟩
    · exact ⟨.micros, rfl, by simp [Duration.ofMicros, TimeoutUnit.length]⟩
    · exact ⟨.nanos, rfl, by simp [Duration.ofNanos, TimeoutUnit.length]⟩
  · rintro ⟨u, rfl, rfl⟩
    cases u <;>
      simp [timeoutSpan, TimeoutUnit.letter, TimeoutUnit.length, Duration.ofSecs,
        Duration.ofMillis, Duration.ofMicros, Duration.ofNanos, Nat.mul_assoc]

@[simp]
theorem parseTimeout_nil : parseTimeout [] = none := rfl

/-- The last character is taken off for the unit. -/
theorem parseTimeout_snoc (cs : List Char) (c : Char) :
    parseTimeout (cs ++ [c]) =
      if 8 < cs.length then none else (Text.digits? cs).bind (timeoutSpan · c) := by
  rw [parseTimeout, List.getLast?_concat, List.dropLast_concat]
  rfl

/-- Reading accepts exactly what can be written. -/
theorem parseTimeout_eq_some_iff {cs : List Char} {d : Duration} :
    parseTimeout cs = some d ↔ ∃ w : WrittenTimeout, cs = w.chars ∧ d = w.span := by
  constructor
  · intro h
    rcases List.eq_nil_or_concat cs with rfl | ⟨cs, c, rfl⟩
    · simp at h
    rw [List.concat_eq_append, parseTimeout_snoc] at h
    split_ifs at h with hlength
    obtain ⟨n, hn, hspan⟩ := Option.bind_eq_some_iff.mp h
    obtain ⟨hne, hdigits, rfl⟩ := Text.digits?_eq_some_iff.mp hn
    obtain ⟨u, rfl, rfl⟩ := timeoutSpan_eq_some_iff.mp hspan
    obtain ⟨ds, rfl⟩ := Text.exists_map_digitChar hdigits
    refine ⟨⟨ds, u, by simpa using hne, by simpa using hlength⟩, by simp [WrittenTimeout.chars], ?_⟩
    rw [Text.digitsValue_map_digitChar]
    rfl
  · rintro ⟨⟨ds, u, hne, hle⟩, rfl, rfl⟩
    have hdigits : ∀ c ∈ ds.map Text.digitChar, Text.Digit c = true := by
      intro c hc
      obtain ⟨d, -, rfl⟩ := List.mem_map.mp hc
      exact Text.digit_digitChar d
    have hread : Text.digits? (ds.map Text.digitChar) =
        some (Nat.ofDigits 10 (ds.reverse.map Fin.val)) :=
      Text.digits?_eq_some_iff.mpr
        ⟨by simpa using hne, hdigits, Text.digitsValue_map_digitChar ds⟩
    rw [WrittenTimeout.chars, parseTimeout_snoc, if_neg (by simpa using hle), hread,
      Option.bind_some]
    exact timeoutSpan_eq_some_iff.mpr ⟨u, rfl, rfl⟩

/-! ### Reading a header -/

/-- What may stand in a header is ASCII. -/
theorem toNat_of_headerTextByte {b : UInt8} (h : HeaderTextByte b = true) : b.toNat < 0x80 := by
  simp only [HeaderTextByte, Bool.or_eq_true, Bool.and_eq_true, decide_eq_true_eq, beq_iff_eq,
    UInt8.lt_iff_toNat_lt] at h
  rcases h with ⟨-, h⟩ | rfl
  · exact Nat.lt_trans h (by decide)
  · decide

theorem toNat_ofNat_of_lt {n : Nat} (h : n < 0x80) : (Char.ofNat n).toNat = n := by
  revert n
  decide

/-- The text of a header has the octets of the header. -/
theorem octets_of_headerText? {value : Bytes} {cs : List Char} (h : headerText? value = some cs) :
    value = cs.map (fun c => UInt8.ofNat c.toNat) ∧ ∀ c ∈ cs, c.toNat < 0x80 := by
  rw [headerText?] at h
  split_ifs at h with hall
  obtain rfl := Option.some.inj h
  have hlt : ∀ b ∈ value, b.toNat < 0x80 := fun b hb =>
    toNat_of_headerTextByte (List.all_eq_true.mp hall b hb)
  refine ⟨?_, fun c hc => ?_⟩
  · rw [List.map_map]
    refine (List.map_id' value).symm.trans (List.map_congr_left fun b hb => ?_)
    rw [Function.comp_apply, toNat_ofNat_of_lt (hlt b hb), UInt8.ofNat_toNat]
  · obtain ⟨b, hb, rfl⟩ := List.mem_map.mp hc
    rw [toNat_ofNat_of_lt (hlt b hb)]
    exact hlt b hb

/-- A written timeout is text when it comes in a header. -/
theorem WrittenTimeout.headerText?_octets (w : WrittenTimeout) :
    headerText? w.octets = some w.chars := by
  have htoNat : ∀ c ∈ w.chars, (UInt8.ofNat c.toNat).toNat = c.toNat := by
    intro c hc
    have := visible_of_mem_chars hc
    rw [UInt8.toNat_ofNat', Nat.mod_eq_of_lt (by omega)]
  have hall : w.octets.all HeaderTextByte = true := by
    rw [List.all_eq_true]
    intro b hb
    obtain ⟨c, hc, rfl⟩ := List.mem_map.mp hb
    have hvisible := visible_of_mem_chars hc
    rw [HeaderTextByte]
    simp [UInt8.le_iff_toNat_le, UInt8.lt_iff_toNat_lt, htoNat c hc, hvisible]
  rw [headerText?, if_pos hall, octets, List.map_map]
  refine congrArg some ((List.map_congr_left fun c hc => ?_).trans (List.map_id' w.chars))
  rw [Function.comp_apply, htoNat c hc, Char.ofNat_toNat]

/-- A caller's deadline is what a written timeout spans. -/
theorem callerDeadline_eq_some_iff {value : Bytes} {d : Duration} :
    callerDeadline (some value) = some d ↔
      ∃ w : WrittenTimeout, value = w.octets ∧ d = w.span := by
  rw [callerDeadline, Option.bind_some, Option.bind_eq_some_iff]
  constructor
  · rintro ⟨cs, hcs, hread⟩
    obtain ⟨w, rfl, rfl⟩ := parseTimeout_eq_some_iff.mp hread
    exact ⟨w, (octets_of_headerText? hcs).1, rfl⟩
  · rintro ⟨w, rfl, rfl⟩
    exact ⟨w.chars, w.headerText?_octets, parseTimeout_eq_some_iff.mpr ⟨w, rfl, rfl⟩⟩

/-! ### Octets and words -/

/-- What stops a computation on octets and words. -/
inductive WordFault where
  /-- A product is no word. -/
  | overflow
  /-- A text is to be cut inside a character. -/
  | insideCharacter

/-- The product of two words, if it is one. -/
def mulWord (a b : UInt64) : Except WordFault UInt64 :=
  if a.toNat * b.toNat < UInt64.size then .ok (a * b) else .error .overflow

/-- A character begins at the position `i` of the octets of a text, or the text ends there. -/
def isBoundary (text : Bytes) (i : Nat) : Bool :=
  i == 0 || if h : i < text.length then !Text.Continuation text[i] else i == text.length

/-- The octets of a text up to a position and from there on. -/
def cutText (text : Bytes) (i : Nat) : Except WordFault (Bytes × Bytes) :=
  if isBoundary text i then .ok (text.splitAt i) else .error .insideCharacter

/-- The octet of a decimal digit. -/
def DigitOctet (b : UInt8) : Bool := 0x30 ≤ b && b ≤ 0x39

/-- The word `n` with one more decimal digit behind it, if that is a word. -/
def appendDigit? (n : UInt64) (b : UInt8) : Option UInt64 :=
  if n.toNat * 10 + (b - 0x30).toNat < UInt64.size then some (n * 10 + (b - 0x30).toUInt64)
  else none

/-- The word that some digits stand for, if it is one. -/
def wordOfDigits? (digits : Bytes) : Option UInt64 := digits.foldlM appendDigit? 0

/-- The span that an amount of a unit is. Hours and minutes are converted to seconds. -/
def spanOfWord (amount : UInt64) : Bytes → Except WordFault (Option Duration)
  | [0x48] => (mulWord amount 3600).map fun secs => some (.ofSecs secs.toNat)
  | [0x4D] => (mulWord amount 60).map fun secs => some (.ofSecs secs.toNat)
  | [0x53] => .ok (some (.ofSecs amount.toNat))
  | [0x6D] => .ok (some (.ofMillis amount.toNat))
  | [0x75] => .ok (some (.ofMicros amount.toNat))
  | [0x6E] => .ok (some (.ofNanos amount.toNat))
  | _ => .ok none

/-- The span that the octets of a text give. -/
def readTimeout (text : Bytes) : Except WordFault (Option Duration) :=
  if text.isEmpty || !isBoundary text (text.length - 1) then .ok none
  else do
    let (digits, unit) ← cutText text (text.length - 1)
    if digits.isEmpty || decide (8 < digits.length) || !digits.all DigitOctet then pure none
    else
      match wordOfDigits? digits with
      | some amount => spanOfWord amount unit
      | none => pure none

/-- How long a caller waits, from the octets of its header. -/
def readHeader (value : Bytes) : Except WordFault (Option Duration) :=
  if value.all HeaderTextByte then readTimeout value else .ok none

/-! ### Nothing is lost in words -/

theorem toNat_octet {c : Char} (hc : c.toNat < 0x80) : (UInt8.ofNat c.toNat).toNat = c.toNat := by
  rw [UInt8.toNat_ofNat', Nat.mod_eq_of_lt (by omega)]

/-- The octet of a character of ASCII tells which one it is. -/
theorem eq_ofNat_of_octet {c : Char} {b : UInt8} (hc : c.toNat < 0x80)
    (h : UInt8.ofNat c.toNat = b) : c = Char.ofNat b.toNat := by
  rw [← h, toNat_octet hc, Char.ofNat_toNat]

/-- A digit goes onto a machine word as long as the word can hold it. -/
theorem appendDigit?_eq {n : UInt64} {c : Char} (hc : Text.Digit c = true)
    (h : 10 * n.toNat + Text.digitValue c < UInt64.size) :
    ∃ m, appendDigit? n (UInt8.ofNat c.toNat) = some m ∧
      m.toNat = 10 * n.toNat + Text.digitValue c := by
  obtain ⟨hle, hge⟩ := Text.toNat_of_digit hc
  have hsize : UInt64.size = 18446744073709551616 := rfl
  have hvalue : (UInt8.ofNat c.toNat - 0x30).toNat = Text.digitValue c := by
    have hoctet := toNat_octet (c := c) (by omega)
    have hsub : (0x30 : UInt8) ≤ UInt8.ofNat c.toNat := by
      rw [UInt8.le_iff_toNat_le, hoctet]
      exact hle
    rw [UInt8.toNat_sub_of_le _ _ hsub, hoctet]
    rfl
  have hfits : n.toNat * 10 + (UInt8.ofNat c.toNat - 0x30).toNat < UInt64.size := by
    rw [hvalue]
    omega
  refine ⟨_, if_pos hfits, ?_⟩
  have hten : (10 : UInt64).toNat = 10 := rfl
  rw [UInt64.toNat_add, UInt64.toNat_mul, UInt8.toNat_toUInt64, hvalue, hten]
  rw [hvalue] at hfits
  omega

/-- The value of at most as many digits as a timeout has is a word. -/
theorem wordOfDigits?_eq {cs : List Char} (h : ∀ c ∈ cs, Text.Digit c = true)
    (hlength : cs.length ≤ 8) :
    ∃ m, wordOfDigits? (cs.map fun c => UInt8.ofNat c.toNat) = some m ∧
      m.toNat = Text.digitsValue 0 cs := by
  induction cs using List.reverseRecOn with
  | nil => exact ⟨0, rfl, rfl⟩
  | append_singleton cs c ih =>
    have hcs : ∀ d ∈ cs, Text.Digit d = true := fun d hd => h d (List.mem_append_left _ hd)
    rw [List.length_append, List.length_singleton] at hlength
    obtain ⟨n, hn, hvalue⟩ := ih hcs (by omega)
    have hsnoc : Text.digitsValue 0 (cs ++ [c]) = 10 * n.toNat + Text.digitValue c := by
      rw [hvalue, Text.digitsValue, List.foldl_append]
      rfl
    have hlt : Text.digitsValue 0 (cs ++ [c]) < UInt64.size :=
      calc Text.digitsValue 0 (cs ++ [c])
          < 10 ^ (cs ++ [c]).length := Text.digitsValue_lt h
        _ ≤ 10 ^ 8 := Nat.pow_le_pow_right (by decide) (by simpa using hlength)
        _ < UInt64.size := by decide
    obtain ⟨m, hm, hmvalue⟩ := appendDigit?_eq (h c (by simp)) (hsnoc ▸ hlt)
    refine ⟨m, ?_, hmvalue.trans hsnoc.symm⟩
    rw [wordOfDigits?] at hn ⊢
    rw [List.map_append, List.foldlM_append, hn]
    simpa using hm

/-- A product is exact as long as a machine word can hold it. -/
theorem mulWord_eq {a b : UInt64} (h : a.toNat * b.toNat < UInt64.size) :
    ∃ m, mulWord a b = .ok m ∧ m.toNat = a.toNat * b.toNat := by
  refine ⟨a * b, if_pos h, ?_⟩
  rw [UInt64.toNat_mul]
  exact Nat.mod_eq_of_lt h

/-- An amount of at most eight digits is a word also when its hours are converted to seconds. -/
theorem spanOfWord_eq {amount : UInt64} (hamount : amount.toNat < 10 ^ 8) {c : Char}
    (hc : c.toNat < 0x80) :
    spanOfWord amount [UInt8.ofNat c.toNat] = .ok (timeoutSpan amount.toNat c) := by
  have hsize : UInt64.size = 18446744073709551616 := rfl
  by_cases hunit : ∃ u : TimeoutUnit, c = u.letter
  · obtain ⟨u, rfl⟩ := hunit
    cases u with
    | hours =>
      obtain ⟨secs, hsecs, hvalue⟩ := mulWord_eq (a := amount) (b := 3600) (by
        change amount.toNat * 3600 < _
        omega)
      change (mulWord amount 3600).map _ = _
      rw [hsecs, Except.map, hvalue]
      rfl
    | minutes =>
      obtain ⟨secs, hsecs, hvalue⟩ := mulWord_eq (a := amount) (b := 60) (by
        change amount.toNat * 60 < _
        omega)
      change (mulWord amount 60).map _ = _
      rw [hsecs, Except.map, hvalue]
      rfl
    | seconds => rfl
    | millis => rfl
    | micros => rfl
    | nanos => rfl
  · have hnone : timeoutSpan amount.toNat c = none := by
      rw [Option.eq_none_iff_forall_ne_some]
      intro d hd
      obtain ⟨u, hu, -⟩ := timeoutSpan_eq_some_iff.mp hd
      exact hunit ⟨u, hu⟩
    -- Any other branch would make the character the letter of a unit.
    rw [hnone, spanOfWord]
    · exact fun h => hunit ⟨.hours, eq_ofNat_of_octet hc (List.singleton_inj.mp h)⟩
    · exact fun h => hunit ⟨.minutes, eq_ofNat_of_octet hc (List.singleton_inj.mp h)⟩
    · exact fun h => hunit ⟨.seconds, eq_ofNat_of_octet hc (List.singleton_inj.mp h)⟩
    · exact fun h => hunit ⟨.millis, eq_ofNat_of_octet hc (List.singleton_inj.mp h)⟩
    · exact fun h => hunit ⟨.micros, eq_ofNat_of_octet hc (List.singleton_inj.mp h)⟩
    · exact fun h => hunit ⟨.nanos, eq_ofNat_of_octet hc (List.singleton_inj.mp h)⟩

/-! ### No character is cut -/

/-- An octet of ASCII continues no character. -/
theorem continuation_of_lt {b : UInt8} (hb : b.toNat < 0x80) : Text.Continuation b = false := by
  have hall : ∀ n < 0x80, Text.Continuation (UInt8.ofNat n) = false := by decide
  simpa using hall b.toNat hb

theorem digitOctet_octet {c : Char} (hc : c.toNat < 0x80) :
    DigitOctet (UInt8.ofNat c.toNat) = Text.Digit c := by
  simp [DigitOctet, Text.Digit, UInt8.le_iff_toNat_le, toNat_octet hc, Char.le_def,
    UInt32.le_iff_toNat_le]

theorem digitOctet_of_continuation {b : UInt8} (h : Text.Continuation b = true) :
    DigitOctet b = false := by
  rw [Bool.eq_false_iff]
  intro hdigit
  have hle : b.toNat ≤ 0x39 := by
    simp only [DigitOctet, Bool.and_eq_true, decide_eq_true_eq] at hdigit
    exact UInt8.le_iff_toNat_le.mp hdigit.2
  rw [continuation_of_lt (by omega)] at h
  cases h

/-- The octets of a text are digits exactly if its characters are. -/
theorem all_digitOctet_flatMap (cs : List Char) :
    (cs.flatMap String.utf8EncodeChar).all DigitOctet = cs.all Text.Digit := by
  induction cs with
  | nil => rfl
  | cons c cs ih =>
    rw [List.flatMap_cons, List.all_append, List.all_cons, ih]
    congr 1
    rcases Nat.lt_or_ge c.toNat 0x80 with hc | hc
    · rw [Text.utf8EncodeChar_of_lt hc, List.all_cons, List.all_nil, Bool.and_true,
        digitOctet_octet hc]
    · obtain ⟨bs, b, hoctets, -, hb⟩ := Text.exists_continuation_of_le hc
      have hdigit : Text.Digit c = false := by
        rw [Bool.eq_false_iff]
        intro hdigit
        have := Text.toNat_of_digit hdigit
        omega
      rw [hoctets, List.all_append, List.all_cons, digitOctet_of_continuation hb, hdigit]
      simp

/-- A text can be split before its last octet, if that continues no character. -/
theorem isBoundary_append_singleton (bs : Bytes) {b : UInt8} (hb : Text.Continuation b = false) :
    isBoundary (bs ++ [b]) bs.length = true := by
  simp [isBoundary, hb]

/-- With an octet of ASCII at the end, a text is cut in front of it. -/
theorem readTimeout_append_singleton {bs : Bytes} {b : UInt8}
    (hb : Text.Continuation b = false) :
    readTimeout (bs ++ [b]) =
      if bs.isEmpty || decide (8 < bs.length) || !bs.all DigitOctet then .ok none
      else
        match wordOfDigits? bs with
        | some amount => spanOfWord amount [b]
        | none => .ok none := by
  have hlength : (bs ++ [b]).length - 1 = bs.length := by simp
  have hboundary := isBoundary_append_singleton bs hb
  have hcut : cutText (bs ++ [b]) bs.length = .ok (bs, [b]) := by
    rw [cutText, if_pos hboundary, List.splitAt_eq, List.take_left, List.drop_left]
  have hne : (bs ++ [b]).isEmpty = false := by simp
  rw [readTimeout, hlength, hboundary, hne, hcut]
  rfl

/-- A text is not cut where its last character has octets in front of it. -/
theorem readTimeout_of_continuation {bs : Bytes} {b : UInt8} (hbs : bs ≠ [])
    (hb : Text.Continuation b = true) : readTimeout (bs ++ [b]) = .ok none := by
  have hlength : (bs ++ [b]).length - 1 = bs.length := by simp
  have hboundary : isBoundary (bs ++ [b]) bs.length = false := by
    simp [isBoundary, hb, hbs]
  rw [readTimeout, hlength, hboundary]
  simp

/-- No unit is written outside of ASCII. -/
theorem timeoutSpan_of_le {c : Char} (hc : 0x80 ≤ c.toNat) (n : Nat) : timeoutSpan n c = none := by
  rw [Option.eq_none_iff_forall_ne_some]
  intro d hd
  obtain ⟨u, rfl, -⟩ := timeoutSpan_eq_some_iff.mp hd
  cases u <;> exact absurd hc (by decide)

/-- Digits are written in one octet each. -/
theorem encode_of_digits {cs : List Char} (h : ∀ c ∈ cs, Text.Digit c = true) :
    cs.flatMap String.utf8EncodeChar = cs.map fun c => UInt8.ofNat c.toNat := by
  rw [← Text.encode_ofList]
  refine Text.encode_of_ascii fun c hc => ?_
  have := Text.toNat_of_digit (h c hc)
  omega

/-- A numeral with a character of ASCII behind it is read from its octets as it is from its
characters. -/
theorem readTimeout_of_digits {cs : List Char} (h : ∀ c ∈ cs, Text.Digit c = true) {c : Char}
    (hc : c.toNat < 0x80) :
    readTimeout ((cs.map fun c => UInt8.ofNat c.toNat) ++ [UInt8.ofNat c.toNat]) =
      .ok (parseTimeout (cs ++ [c])) := by
  have hdigits : (cs.map fun c => UInt8.ofNat c.toNat).all DigitOctet = true := by
    rw [← encode_of_digits h, all_digitOctet_flatMap]
    exact List.all_eq_true.mpr h
  rw [readTimeout_append_singleton (continuation_of_lt ((toNat_octet hc).trans_lt hc)), hdigits,
    List.length_map, List.isEmpty_map, parseTimeout_snoc]
  by_cases hfits : cs ≠ [] ∧ cs.length ≤ 8
  · obtain ⟨hne, hle⟩ := hfits
    obtain ⟨amount, hamount, hvalue⟩ := wordOfDigits?_eq h hle
    have hlt : amount.toNat < 10 ^ 8 := by
      rw [hvalue]
      exact (Text.digitsValue_lt h).trans_le (Nat.pow_le_pow_right (by decide) hle)
    have hread : Text.digits? cs = some amount.toNat :=
      Text.digits?_eq_some_iff.mpr ⟨hne, h, hvalue.symm⟩
    rw [if_neg (by simp [hne, hle]), if_neg (Nat.not_lt.mpr hle), hamount, hread, Option.bind_some]
    exact spanOfWord_eq hlt hc
  · -- Both readers turn down a numeral without digits and one with too many.
    rw [not_and_or, not_not, Nat.not_le] at hfits
    rcases hfits with rfl | hlong
    · rfl
    · rw [if_pos (by simp [hlong]), if_pos hlong]

/-- Reading the octets of a text comes to what reading its characters does. -/
theorem readTimeout_encode (cs : List Char) :
    readTimeout (Text.encode (String.ofList cs)) = .ok (parseTimeout cs) := by
  rw [Text.encode_ofList]
  rcases List.eq_nil_or_concat cs with rfl | ⟨cs, c, rfl⟩
  · rfl
  rw [List.concat_eq_append, List.flatMap_append, List.flatMap_singleton]
  rcases Nat.lt_or_ge c.toNat 0x80 with hc | hc
  · rw [Text.utf8EncodeChar_of_lt hc]
    cases hdigits : cs.all Text.Digit with
    | true =>
      have hall : ∀ c ∈ cs, Text.Digit c = true := List.all_eq_true.mp hdigits
      rw [encode_of_digits hall]
      exact readTimeout_of_digits hall hc
    | false =>
      rw [readTimeout_append_singleton (continuation_of_lt ((toNat_octet hc).trans_lt hc)),
        all_digitOctet_flatMap, parseTimeout_snoc]
      simp [Text.digits?, hdigits]
  · obtain ⟨bs, b, hoctets, hbs, hb⟩ := Text.exists_continuation_of_le hc
    have hnone : (Text.digits? cs).bind (timeoutSpan · c) = none :=
      Option.bind_eq_none_iff.mpr fun n _ => timeoutSpan_of_le hc n
    rw [parseTimeout_snoc, hoctets, ← List.append_assoc,
      readTimeout_of_continuation (List.append_ne_nil_of_right_ne_nil _ hbs) hb, hnone, ite_self]

/-- What reads a header on machine words reads the caller's deadline, and never overflows. -/
theorem readHeader_eq (value : Bytes) :
    readHeader value = .ok (callerDeadline (some value)) := by
  rw [readHeader, callerDeadline, Option.bind_some]
  by_cases hall : value.all HeaderTextByte = true
  · obtain ⟨cs, hcs⟩ : ∃ cs, headerText? value = some cs := ⟨_, if_pos hall⟩
    obtain ⟨hoctets, hascii⟩ := octets_of_headerText? hcs
    have hencode : value = Text.encode (String.ofList cs) := by
      rw [Text.encode_of_ascii hascii, ← hoctets]
    rw [if_pos hall, hcs, hencode, readTimeout_encode, Option.bind_some]
  · rw [if_neg hall, headerText?, if_neg hall, Option.bind_none]

/-- **Timeouts are read exactly.** A header gives a deadline exactly if it holds one to eight digits
and the letter of a unit, and then the deadline is the value of the numeral times the unit; every
other header, and a missing one, gives none. The same holds of any text, ASCII or not. Computing it
from octets in words of 64 bits, a machine meets no fault and comes to the same. -/
theorem timeout_read_exactly :
    (∀ (value : Bytes) (d : Duration), callerDeadline (some value) = some d ↔
      ∃ w : WrittenTimeout, value = w.octets ∧ d = w.span) ∧
    callerDeadline none = none ∧
    (∀ (s : String) (d : Duration), parseTimeout s.toList = some d ↔
      ∃ w : WrittenTimeout, s.toList = w.chars ∧ d = w.span) ∧
    (∀ value : Bytes, readHeader value = .ok (callerDeadline (some value))) ∧
    ∀ s : String, readTimeout (Text.encode s) = .ok (parseTimeout s.toList) := by
  refine ⟨fun value d => callerDeadline_eq_some_iff, rfl, fun s d => parseTimeout_eq_some_iff,
    readHeader_eq, fun s => ?_⟩
  have hread := readTimeout_encode s.toList
  rwa [String.ofList_toList] at hread

end GatewayAgent
