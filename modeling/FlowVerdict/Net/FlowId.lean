import FlowVerdict.Net.Endpoint
import FlowVerdict.Net.Transport

/-!
The identity of a flow: two endpoints, whichever of them sends, and a transport protocol. A packet
and its reply belong to one flow.
-/

namespace FlowVerdict

/-- The identity of a flow. The endpoints of an identity built by `between` stand in order. -/
structure FlowId where
  low : Endpoint
  high : Endpoint
  transport : Transport
deriving DecidableEq

namespace FlowId

/-- The flow between two endpoints, in either direction. -/
def between (a b : Endpoint) (transport : Transport) : FlowId :=
  if a ≤ b then ⟨a, b, transport⟩ else ⟨b, a, transport⟩

def contains (id : FlowId) (e : Endpoint) : Bool := id.low = e || id.high = e

/-- The text of a flow: its protocol and both endpoints, the lower one first. -/
def text (id : FlowId) : String :=
  id.transport.name ++ " " ++ id.low.text ++ " <-> " ++ id.high.text

instance : ToString FlowId := ⟨text⟩

end FlowId

end FlowVerdict
