import GatewayAgent.Proofs.UserConfig.Route
import Mathlib.Data.List.TakeWhile

/-!
# The forms of a route

A route is documented as the word `default`, an address, an address and a prefix length, or for IPv4
an address and a netmask (`RouteForm`). Reading takes a text apart at its first slash, of which an
address has none: so a text without a slash is read as a whole
(`Route.isSome_parse?_iff_of_no_slash`), and any other by the two parts around its first slash
(`Route.isSome_parse?_append_iff`).

The numeral behind the slash is where the reader is wider than the documented form: it allows a plus
sign in front of the digits (`isSome_prefixLength?_iff`). `Route.accepted_as_documented_iff` says
that this is the only difference.
-/

namespace GatewayAgent

/-! ### Forms -/

/-- The text is an IPv4 address, four numbers with dots between them. -/
def IsIpv4 (s : String) : Prop := (Ipv4.parse? s).isSome = true

/-- The text is an IPv6 address. -/
def IsIpv6 (s : String) : Prop := (Address.whole Address.ipv6 s).isSome = true

/-- The text is a numeral of digits alone, at least one, with a value of at most `bound`. -/
structure IsPrefixLength (bound : Nat) (p : String) : Prop where
  ne_empty : p ≠ ""
  digits : ∀ c ∈ p.toList, '0' ≤ c ∧ c ≤ '9'
  le_bound : Text.digitsValue 0 p.toList ≤ bound

/-- The documented forms of a route. -/
inductive RouteForm : String → Prop
  | everything : RouteForm "default"
  | host4 {a : String} (ha : IsIpv4 a) : RouteForm a
  | host6 {a : String} (ha : IsIpv6 a) : RouteForm a
  | network4 {a p : String} (ha : IsIpv4 a) (hp : IsPrefixLength 32 p) : RouteForm (a ++ "/" ++ p)
  | network6 {a p : String} (ha : IsIpv6 a) (hp : IsPrefixLength 128 p) : RouteForm (a ++ "/" ++ p)
  | masked4 {a m : String} (ha : IsIpv4 a) (hm : IsIpv4 m) : RouteForm (a ++ "/" ++ m)

/-- A network with a plus sign in front of its prefix length. -/
inductive SignedRoute : String → Prop
  | network4 {a p : String} (ha : IsIpv4 a) (hp : IsPrefixLength 32 p) :
      SignedRoute (a ++ "/" ++ ("+" ++ p))
  | network6 {a p : String} (ha : IsIpv6 a) (hp : IsPrefixLength 128 p) :
      SignedRoute (a ++ "/" ++ ("+" ++ p))

variable {s a t : String}

/-! ### Addresses -/

/-- An IPv4 address is written in address characters. -/
theorem IsIpv4.addressChar (h : IsIpv4 s) : ∀ c ∈ s.toList, AddressChar c = true := by
  obtain ⟨v, hv⟩ := Option.isSome_iff_exists.mp h
  exact Ipv4.addressChar_of_parse? hv

/-- An IPv6 address is written in address characters. -/
theorem IsIpv6.addressChar (h : IsIpv6 s) : ∀ c ∈ s.toList, AddressChar c = true := by
  obtain ⟨v, hv⟩ := Option.isSome_iff_exists.mp h
  exact Address.addressChar_of_whole Address.reads_ipv6 hv

/-- A text that reads as an IPv4 address takes the place of two groups of an IPv6 address and ends
them, so there are too few of them. -/
theorem IsIpv4.whole_ipv6 (h : IsIpv4 s) : Address.whole Address.ipv6 s = none := by
  obtain ⟨v, hv⟩ := Option.isSome_iff_exists.mp h
  have hread : Address.ipv4 s.toList = some (v, []) := by
    rw [Ipv4.parse?, Address.whole] at hv
    split at hv
    · next w hw => rwa [Option.some.inj hv] at hw
    · exact absurd hv (by simp)
  have hgroups : Address.groups true 8 s.toList =
      ([v.a.toUInt16 * 256 + v.b.toUInt16, v.c.toUInt16 * 256 + v.d.toUInt16], true, []) := by
    rw [Address.groups]
    simp [Address.separator, hread]
  rw [Address.whole, Address.ipv6, hgroups]
  simp

/-- No text is an address of both kinds. -/
theorem IsIpv4.not_isIpv6 (h : IsIpv4 s) : ¬IsIpv6 s := by
  rw [IsIpv6, h.whole_ipv6]
  simp

theorem IsIpv4.exists_parse? (h : IsIpv4 s) : ∃ v, IpAddress.parse? s = some (.v4 v) := by
  obtain ⟨v, hv⟩ := Option.isSome_iff_exists.mp h
  exact ⟨v, by rw [IpAddress.parse?, hv]; rfl⟩

theorem IsIpv6.exists_parse? (h : IsIpv6 s) : ∃ v, IpAddress.parse? s = some (.v6 v) := by
  obtain ⟨v, hv⟩ := Option.isSome_iff_exists.mp h
  have hv4 : Ipv4.parse? s = none := by
    rw [← Option.not_isSome_iff_eq_none]
    exact fun h4 => IsIpv4.not_isIpv6 h4 h
  exact ⟨v, by rw [IpAddress.parse?, hv4, hv]; rfl⟩

/-- What an address that has been read is. -/
theorem isIpv4_or_isIpv6_of_parse? {v : IpAddress} (h : IpAddress.parse? s = some v) :
    (∃ x, v = .v4 x ∧ IsIpv4 s) ∨ ∃ x, v = .v6 x ∧ IsIpv6 s := by
  rw [IpAddress.parse?] at h
  cases hv4 : Ipv4.parse? s with
  | some x =>
    rw [hv4] at h
    exact .inl ⟨x, (Option.some.inj h).symm, by rw [IsIpv4, hv4]; rfl⟩
  | none =>
    rw [hv4] at h
    obtain ⟨x, hx, rfl⟩ := Option.map_eq_some_iff.mp h
    exact .inr ⟨x, rfl, by rw [IsIpv6, hx]; rfl⟩

/-- A text is read as an address if it is one of either kind. -/
theorem IpAddress.isSome_parse?_iff :
    (IpAddress.parse? s).isSome = true ↔ IsIpv4 s ∨ IsIpv6 s := by
  constructor
  · intro h
    obtain ⟨v, hv⟩ := Option.isSome_iff_exists.mp h
    exact (isIpv4_or_isIpv6_of_parse? hv).imp (fun ⟨_, _, hs⟩ => hs) fun ⟨_, _, hs⟩ => hs
  · rintro (h | h)
    · obtain ⟨v, hv⟩ := h.exists_parse?
      rw [hv, Option.isSome_some]
    · obtain ⟨v, hv⟩ := h.exists_parse?
      rw [hv, Option.isSome_some]

theorem IsIpv4.slash_not_mem (h : IsIpv4 s) : '/' ∉ s.toList :=
  fun hc => absurd (h.addressChar '/' hc) (by decide)

theorem IsIpv6.slash_not_mem (h : IsIpv6 s) : '/' ∉ s.toList :=
  fun hc => absurd (h.addressChar '/' hc) (by decide)

/-! ### Prefix lengths -/

/-- A sign is taken off if there is one. -/
theorem eq_unsign_or (cs : List Char) : cs = Text.unsign cs ∨ cs = '+' :: Text.unsign cs := by
  unfold Text.unsign
  split
  · exact .inr rfl
  · exact .inl rfl

/-- Digits have no sign. -/
theorem unsign_of_digits {cs : List Char} (h : ∀ c ∈ cs, Text.Digit c = true) :
    Text.unsign cs = cs := by
  unfold Text.unsign
  split
  · next r => exact absurd (h '+' (by simp)) (by decide)
  · rfl

/-- A prefix length is a number of digits that is not too large. -/
theorem isPrefixLength_iff {bound : Nat} {p : String} :
    IsPrefixLength bound p ↔ ∃ n, Text.digits? p.toList = some n ∧ n ≤ bound := by
  have hdigit : ∀ c : Char, Text.Digit c = true ↔ '0' ≤ c ∧ c ≤ '9' := by simp [Text.Digit]
  simp only [Text.digits?_eq_some_iff, hdigit]
  constructor
  · rintro ⟨hne, hdigits, hle⟩
    exact ⟨_, ⟨fun hnil => hne (String.toList_eq_nil_iff.mp hnil), hdigits, rfl⟩, hle⟩
  · rintro ⟨n, ⟨hne, hdigits, rfl⟩, hle⟩
    exact ⟨fun hempty => hne (String.toList_eq_nil_iff.mpr hempty), hdigits, hle⟩

/-- A numeral is read as a prefix length with a plus sign in front of it or without one. -/
theorem isSome_prefixLength?_iff {bound : Nat} (hbound : bound ≤ 255) :
    (prefixLength? bound t.toList).isSome = true ↔
      IsPrefixLength bound t ∨ ∃ p, t = "+" ++ p ∧ IsPrefixLength bound p := by
  have hread : (prefixLength? bound t.toList).isSome = true ↔
      IsPrefixLength bound (String.ofList (Text.unsign t.toList)) := by
    rw [isPrefixLength_iff, String.toList_ofList, Option.isSome_iff_exists]
    refine exists_congr fun n => ?_
    simp only [prefixLength?, Text.unsigned?, Option.filter_eq_some_iff, decide_eq_true_eq,
      and_assoc]
    refine and_congr_right fun _ => ⟨fun h => h.2, fun h => ⟨Nat.le_trans h hbound, h⟩⟩
  rw [hread]
  constructor
  · intro h
    rcases eq_unsign_or t.toList with heq | heq
    · rw [← heq, String.ofList_toList] at h
      exact .inl h
    · refine .inr ⟨_, ?_, h⟩
      rw [← String.toList_inj]
      simpa using heq
  · rintro (h | ⟨p, rfl, h⟩)
    · have hdigits : ∀ c ∈ t.toList, Text.Digit c = true := fun c hc => by
        simpa [Text.Digit] using h.digits c hc
      rwa [unsign_of_digits hdigits, String.ofList_toList]
    · have hunsign : Text.unsign ("+" ++ p).toList = p.toList := by
        rw [String.toList_append]
        rfl
      rwa [hunsign, String.ofList_toList]

/-! ### Reading a route -/

theorem splitSlash_of_not_mem {cs : List Char} (h : '/' ∉ cs) : splitSlash cs = (cs, none) := by
  have hall : ∀ c ∈ cs, (c != '/') = true := fun c hc => by
    simpa using ne_of_mem_of_not_mem hc h
  rw [splitSlash_eq, List.takeWhile_eq_self_iff.mpr hall, List.dropWhile_eq_nil_iff.mpr hall]
  rfl

theorem splitSlash_append {cs ds : List Char} (h : '/' ∉ cs) :
    splitSlash (cs ++ '/' :: ds) = (cs, some ds) := by
  have hall : ∀ c ∈ cs, (c != '/') = true := fun c hc => by
    simpa using ne_of_mem_of_not_mem hc h
  rw [splitSlash_eq, List.takeWhile_append_of_pos hall, List.dropWhile_append_of_pos hall]
  simp

/-- A text has no slash, or it has a part in front of its first slash and one behind it. -/
theorem no_slash_or_exists_append (s : String) :
    '/' ∉ s.toList ∨ ∃ a t, s = a ++ "/" ++ t ∧ '/' ∉ a.toList := by
  by_cases h : '/' ∈ s.toList
  · obtain ⟨before, after, hs, hbefore⟩ := List.eq_append_cons_of_mem h
    refine .inr ⟨String.ofList before, String.ofList after, ?_, by simpa using hbefore⟩
    rw [← String.toList_inj, hs]
    simp
  · exact .inl h

namespace Route

/-- A text without a slash is read as a whole. -/
theorem isSome_parse?_iff_of_no_slash (h : '/' ∉ s.toList) :
    (Route.parse? s).isSome = true ↔ s = "default" ∨ IsIpv4 s ∨ IsIpv6 s := by
  rw [Route.parse?]
  split_ifs with hs
  · simp [hs]
  · rw [splitSlash_of_not_mem h, or_iff_right hs, ← IpAddress.isSome_parse?_iff]
    simp

/-- What stands before the first slash is the address, and what stands behind it says how long the
prefix is. -/
theorem parse?_append_slash (h : '/' ∉ a.toList) :
    Route.parse? (a ++ "/" ++ t) =
      match IpAddress.parse? a with
      | some (.v4 x) => network4? x t.toList
      | some (.v6 x) => (prefixLength? 128 t.toList).map (.network6 x)
      | none => none := by
  have hslash : '/' ∉ "default".toList := by decide
  have hs : a ++ "/" ++ t ≠ "default" := by
    intro heq
    rw [← heq] at hslash
    exact hslash (by simp)
  have hsplit : splitSlash (a ++ "/" ++ t).toList = (a.toList, some t.toList) := by
    rw [← splitSlash_append h]
    simp
  rw [Route.parse?, if_neg hs, hsplit]
  cases haddress : IpAddress.parse? a with
  | none => simp only [String.ofList_toList, haddress]
  | some x => cases x <;> simp only [String.ofList_toList, haddress]

/-- Behind an IPv4 address stands a prefix length or a netmask. -/
theorem isSome_network4?_iff (x : Ipv4) :
    (network4? x t.toList).isSome = true ↔
      (prefixLength? 32 t.toList).isSome = true ∨ IsIpv4 t := by
  rw [network4?, IsIpv4, String.ofList_toList]
  cases prefixLength? 32 t.toList with
  | some n => simp
  | none => simp

/-- What may stand behind the slash of a network. -/
theorem isSome_parse?_append_iff (h : '/' ∉ a.toList) :
    (Route.parse? (a ++ "/" ++ t)).isSome = true ↔
      (IsIpv4 a ∧ ((prefixLength? 32 t.toList).isSome = true ∨ IsIpv4 t)) ∨
        (IsIpv6 a ∧ (prefixLength? 128 t.toList).isSome = true) := by
  rw [parse?_append_slash h]
  constructor
  · intro hsome
    cases hread : IpAddress.parse? a with
    | none => simp [hread] at hsome
    | some v =>
      rcases isIpv4_or_isIpv6_of_parse? hread with ⟨x, rfl, ha⟩ | ⟨x, rfl, ha⟩
      · simp only [hread, isSome_network4?_iff] at hsome
        exact .inl ⟨ha, hsome⟩
      · simp only [hread, Option.isSome_map] at hsome
        exact .inr ⟨ha, hsome⟩
  · rintro (⟨ha, ht⟩ | ⟨ha, ht⟩)
    · obtain ⟨x, hx⟩ := ha.exists_parse?
      simpa only [hx, isSome_network4?_iff] using ht
    · obtain ⟨x, hx⟩ := ha.exists_parse?
      simpa only [hx, Option.isSome_map] using ht

end Route

/-! ### Forms that are read -/

/-- Every route of a documented form is read. -/
theorem RouteForm.isSome_parse? (h : RouteForm s) : (Route.parse? s).isSome = true := by
  cases h with
  | everything => rfl
  | host4 ha => exact (Route.isSome_parse?_iff_of_no_slash ha.slash_not_mem).mpr (.inr (.inl ha))
  | host6 ha => exact (Route.isSome_parse?_iff_of_no_slash ha.slash_not_mem).mpr (.inr (.inr ha))
  | network4 ha hp =>
    have hread := (isSome_prefixLength?_iff (by decide)).mpr (.inl hp)
    exact (Route.isSome_parse?_append_iff ha.slash_not_mem).mpr (.inl ⟨ha, .inl hread⟩)
  | network6 ha hp =>
    have hread := (isSome_prefixLength?_iff (by decide)).mpr (.inl hp)
    exact (Route.isSome_parse?_append_iff ha.slash_not_mem).mpr (.inr ⟨ha, hread⟩)
  | masked4 ha hm =>
    exact (Route.isSome_parse?_append_iff ha.slash_not_mem).mpr (.inl ⟨ha, .inr hm⟩)

/-- A prefix length with a plus sign is read as well. -/
theorem SignedRoute.isSome_parse? (h : SignedRoute s) : (Route.parse? s).isSome = true := by
  cases h with
  | network4 ha hp =>
    have hread := (isSome_prefixLength?_iff (by decide)).mpr (.inr ⟨_, rfl, hp⟩)
    exact (Route.isSome_parse?_append_iff ha.slash_not_mem).mpr (.inl ⟨ha, .inl hread⟩)
  | network6 ha hp =>
    have hread := (isSome_prefixLength?_iff (by decide)).mpr (.inr ⟨_, rfl, hp⟩)
    exact (Route.isSome_parse?_append_iff ha.slash_not_mem).mpr (.inr ⟨ha, hread⟩)

/-- What is read has one of the forms, with or without a sign. -/
theorem form_or_signed_of_isSome_parse? (h : (Route.parse? s).isSome = true) :
    RouteForm s ∨ SignedRoute s := by
  rcases no_slash_or_exists_append s with hslash | ⟨a, t, rfl, hslash⟩
  · rcases (Route.isSome_parse?_iff_of_no_slash hslash).mp h with rfl | ha | ha
    · exact .inl .everything
    · exact .inl (.host4 ha)
    · exact .inl (.host6 ha)
  · rcases (Route.isSome_parse?_append_iff hslash).mp h with ⟨ha, ht | ht⟩ | ⟨ha, ht⟩
    · rcases (isSome_prefixLength?_iff (by decide)).mp ht with hp | ⟨p, rfl, hp⟩
      · exact .inl (.network4 ha hp)
      · exact .inr (.network4 ha hp)
    · exact .inl (.masked4 ha ht)
    · rcases (isSome_prefixLength?_iff (by decide)).mp ht with hp | ⟨p, rfl, hp⟩
      · exact .inl (.network6 ha hp)
      · exact .inr (.network6 ha hp)

/-- None of the documented forms has a plus sign anywhere. -/
theorem RouteForm.plus_not_mem (h : RouteForm s) : '+' ∉ s.toList := by
  have haddress : ∀ {b : String}, (∀ c ∈ b.toList, AddressChar c = true) → '+' ∉ b.toList :=
    fun hb hc => absurd (hb '+' hc) (by decide)
  have hnumeral : ∀ {bound : Nat} {p : String}, IsPrefixLength bound p → '+' ∉ p.toList :=
    fun hp hc => absurd (hp.digits '+' hc) (by decide)
  have hnetwork : ∀ {b t : String}, '+' ∉ b.toList → '+' ∉ t.toList →
      '+' ∉ (b ++ "/" ++ t).toList := by
    intro b t hb ht
    simp [hb, ht]
  cases h with
  | everything => decide
  | host4 ha => exact haddress ha.addressChar
  | host6 ha => exact haddress ha.addressChar
  | network4 ha hp => exact hnetwork (haddress ha.addressChar) (hnumeral hp)
  | network6 ha hp => exact hnetwork (haddress ha.addressChar) (hnumeral hp)
  | masked4 ha hm => exact hnetwork (haddress ha.addressChar) (haddress hm.addressChar)

/-- A signed route has its plus sign. -/
theorem SignedRoute.plus_mem (h : SignedRoute s) : '+' ∈ s.toList := by
  cases h with
  | network4 ha hp => simp
  | network6 ha hp => simp

/-- **What is accepted as a route.** A text is read as a route exactly if it has one of the
documented forms, or if it has that of a network but for a plus sign in front of the prefix length.
So what is accepted is what is documented exactly for the texts without that sign. -/
theorem Route.accepted_as_documented_iff (s : String) :
    ((Route.parse? s).isSome = true ↔ RouteForm s ∨ SignedRoute s) ∧
      (((Route.parse? s).isSome = true ↔ RouteForm s) ↔ ¬SignedRoute s) := by
  have haccepted : (Route.parse? s).isSome = true ↔ RouteForm s ∨ SignedRoute s :=
    ⟨form_or_signed_of_isSome_parse?,
      fun h => h.elim RouteForm.isSome_parse? SignedRoute.isSome_parse?⟩
  refine ⟨haccepted, fun h hsigned => ?_, fun hunsigned => ?_⟩
  · exact (h.mp hsigned.isSome_parse?).plus_not_mem hsigned.plus_mem
  · rw [haccepted, or_iff_left hunsigned]

/-- A plus sign is read over, although no documented form has one. -/
theorem Route.signed_prefix_accepted :
    Route.parse? "10.0.0.0/+8" = some (.network4 ⟨10, 0, 0, 0⟩ 8) ∧ ¬RouteForm "10.0.0.0/+8" :=
  ⟨by decide, fun h => h.plus_not_mem (by decide)⟩

end GatewayAgent
