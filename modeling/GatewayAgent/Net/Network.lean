import GatewayAgent.Host.SystemError
import GatewayAgent.Net.Address

/-!
# Networks

What the network of a host makes of requests to listen on an address and to connect to one.
-/

namespace GatewayAgent

/-- The network of a host. -/
structure Network where
  /-- Why an address cannot be listened on, if it cannot. -/
  refusal? : Endpoint → Option SystemError
  /-- Whether clients can connect to an address that is listened on. -/
  reachable : Endpoint → Bool

/-- What a client says that cannot connect. -/
def unreachableMessage : String := "transport error"

/-- Why a client cannot connect to an address, if it cannot. -/
def Network.clientFault? (n : Network) (e : Endpoint) : Option String :=
  if n.reachable e then none else some unreachableMessage

end GatewayAgent
