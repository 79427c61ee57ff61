import GatewayAgent.Net.Address
import GatewayAgent.Text.Decimal

/-!
# Routes

What can be pushed to a client as a route: everything, a single address, or a network given by an
address and a prefix length, for IPv4 also by an address and a netmask. `Route.parse?` reads the
written form; the part behind the first slash is the prefix length or the netmask.
-/

namespace GatewayAgent

/-- A route that a client can be given. -/
inductive Route where
  /-- All traffic. -/
  | everything
  | host (address : IpAddress)
  | network4 (address : Ipv4) (prefixLength : Nat)
  | network6 (address : Ipv6) (prefixLength : Nat)
  | masked4 (address : Ipv4) (netmask : Ipv4)
  deriving DecidableEq, Repr

/-- The text in front of the first slash and the text behind it, if there is a slash. -/
def splitSlash (cs : List Char) : List Char × Option (List Char) :=
  match cs.span (· != '/') with
  | (before, []) => (before, none)
  | (before, _ :: after) => (before, some after)

/-- A prefix length of at most `bound` bits. -/
def prefixLength? (bound : Nat) (cs : List Char) : Option Nat :=
  (Text.unsigned? 255 cs).filter (· ≤ bound)

/-- The network of an IPv4 address with the text behind its slash. -/
def network4? (address : Ipv4) (tail : List Char) : Option Route :=
  match prefixLength? 32 tail with
  | some n => some (.network4 address n)
  | none => (Ipv4.parse? (String.ofList tail)).map (.masked4 address)

/-- The route that a text is. -/
def Route.parse? (s : String) : Option Route :=
  if s = "default" then some .everything
  else
    match splitSlash s.toList with
    | (before, none) => (IpAddress.parse? (String.ofList before)).map .host
    | (before, some tail) =>
      match IpAddress.parse? (String.ofList before) with
      | some (.v4 a) => network4? a tail
      | some (.v6 a) => (prefixLength? 128 tail).map (.network6 a)
      | none => none

end GatewayAgent
