import GatewayAgent.Proofs.Net.Address
import GatewayAgent.Proofs.Text.Decimal
import GatewayAgent.UserConfig.Route
import Mathlib.Data.List.TakeDrop

/-!
# The characters of a route

A text that is a route is put together from addresses, from numerals with an optional plus sign and
from one slash, or it is the word `default`. So its characters stand between the plus sign and the
letter u (`Route.routeChar_of_parse?`): there is no blank among them and no line break.
-/

namespace GatewayAgent

/-! ### Around the slash -/

theorem splitSlash_eq (cs : List Char) :
    splitSlash cs = (cs.takeWhile (· != '/'), (cs.dropWhile (· != '/')).tail?) := by
  rw [splitSlash, List.span_eq_takeWhile_dropWhile]
  cases cs.dropWhile (· != '/') <;> rfl

/-- What is neither in front of the first slash nor behind it is that slash. -/
theorem mem_of_splitSlash {cs before : List Char} {after : Option (List Char)} {c : Char}
    (h : splitSlash cs = (before, after)) (hc : c ∈ cs) :
    c ∈ before ∨ c = '/' ∨ ∃ tail, after = some tail ∧ c ∈ tail := by
  rw [splitSlash_eq, Prod.mk.injEq] at h
  obtain ⟨rfl, rfl⟩ := h
  rw [← List.takeWhile_append_dropWhile (p := (· != '/')) (l := cs), List.mem_append] at hc
  refine hc.imp_right fun hc => ?_
  have hslash := List.head?_dropWhile_not (· != '/') cs
  cases hdrop : cs.dropWhile (· != '/') with
  | nil => simp [hdrop] at hc
  | cons d tail =>
    rw [hdrop] at hc hslash
    have hd : d = '/' := by simpa using hslash
    subst hd
    exact (List.mem_cons.mp hc).imp_right fun hc => ⟨tail, rfl, hc⟩

/-! ### Numerals -/

theorem mem_unsign {cs : List Char} {c : Char} (hc : c ∈ cs) : c = '+' ∨ c ∈ Text.unsign cs := by
  unfold Text.unsign
  split
  · exact List.mem_cons.mp hc
  · exact .inr hc

theorem toNat_of_unsigned? {bound n : Nat} {cs : List Char}
    (h : Text.unsigned? bound cs = some n) : ∀ c ∈ cs, 0x2B ≤ c.toNat ∧ c.toNat ≤ 0x39 := by
  intro c hc
  rcases mem_unsign hc with rfl | hc
  · decide
  · obtain ⟨-, hall, -⟩ := Text.digits?_eq_some_iff.mp (Option.filter_eq_some_iff.mp h).1
    have := Text.toNat_of_digit (hall c hc)
    omega

/-! ### Routes -/

/-- A character from the plus sign to the letter u. -/
def RouteChar (c : Char) : Prop := 0x2B ≤ c.toNat ∧ c.toNat ≤ 0x75

theorem routeChar_of_addressChar {c : Char} (h : AddressChar c = true) : RouteChar c := by
  have := toNat_of_addressChar h
  exact ⟨by omega, by omega⟩

theorem routeChar_of_parse?_ofList {cs : List Char} {a : IpAddress}
    (h : IpAddress.parse? (String.ofList cs) = some a) : ∀ c ∈ cs, RouteChar c :=
  fun c hc => routeChar_of_addressChar (IpAddress.addressChar_of_parse? h c (by simpa using hc))

theorem routeChar_of_prefixLength? {bound n : Nat} {cs : List Char}
    (h : prefixLength? bound cs = some n) : ∀ c ∈ cs, RouteChar c := by
  intro c hc
  have := toNat_of_unsigned? (Option.filter_eq_some_iff.mp h).1 c hc
  exact ⟨this.1, by omega⟩

theorem routeChar_of_network4? {a : Ipv4} {tail : List Char} {r : Route}
    (h : network4? a tail = some r) : ∀ c ∈ tail, RouteChar c := by
  rw [network4?] at h
  split at h
  · next n hn => exact routeChar_of_prefixLength? hn
  · obtain ⟨mask, hmask, -⟩ := Option.map_eq_some_iff.mp h
    exact fun c hc =>
      routeChar_of_addressChar (Ipv4.addressChar_of_parse? hmask c (by simpa using hc))

/-- The characters of a route are printable and not blank. -/
theorem Route.routeChar_of_parse? {s : String} {r : Route} (h : Route.parse? s = some r) :
    ∀ c ∈ s.toList, RouteChar c := by
  rw [Route.parse?] at h
  split_ifs at h with hdefault
  · subst hdefault
    simp [RouteChar]
  · intro c hc
    split at h
    · next before hsplit =>
      obtain ⟨a, ha, -⟩ := Option.map_eq_some_iff.mp h
      rcases mem_of_splitSlash hsplit hc with hc | rfl | ⟨tail, htail, -⟩
      · exact routeChar_of_parse?_ofList ha c hc
      · exact ⟨by decide, by decide⟩
      · exact absurd htail (by simp)
    · next before tail hsplit =>
      -- Both families have an address in front of the slash; what may stand behind it differs.
      have hparts : (∀ c ∈ before, RouteChar c) ∧ ∀ c ∈ tail, RouteChar c := by
        split at h
        · next a ha => exact ⟨routeChar_of_parse?_ofList ha, routeChar_of_network4? h⟩
        · next a ha =>
          obtain ⟨n, hn, -⟩ := Option.map_eq_some_iff.mp h
          exact ⟨routeChar_of_parse?_ofList ha, routeChar_of_prefixLength? hn⟩
        · exact absurd h (by simp)
      rcases mem_of_splitSlash hsplit hc with hc | rfl | ⟨tail', htail, hc⟩
      · exact hparts.1 c hc
      · exact ⟨by decide, by decide⟩
      · cases htail
        exact hparts.2 c hc

end GatewayAgent
