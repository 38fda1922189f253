import FlowVerdict.Verdict

/-!
Port policy: verdicts by port numbers alone, before a flow is looked at. Flows that touch a blocked
port get one verdict; where ports are allowed, flows that touch none of them get another. A verdict
that lets pass is no verdict here: the flow is looked at.
-/

namespace FlowVerdict

structure PortPolicy where
  blocked : List UInt16
  blockedVerdict : Verdict
  allowed : List UInt16
  otherVerdict : Verdict

namespace PortPolicy

def isEmpty (policy : PortPolicy) : Bool := policy.blocked.isEmpty && policy.allowed.isEmpty

def touches (ports : List UInt16) (a b : UInt16) : Bool := ports.contains a || ports.contains b

/-- The verdict on a flow between two ports, if there is one. Blocked ports come first. -/
def verdict? (policy : PortPolicy) (a b : UInt16) : Option Verdict :=
  if touches policy.blocked a b && policy.blockedVerdict != .pass then some policy.blockedVerdict
  else if !policy.allowed.isEmpty && !touches policy.allowed a b &&
      policy.otherVerdict != .pass then
    some policy.otherVerdict
  else none

end PortPolicy

end FlowVerdict
