import FlowVerdict.Net.FlowId
import FlowVerdict.Payload.Statistics
import FlowVerdict.Text.Blank

/-!
Packets as a host hands them over: endpoints, protocol, TCP flags and the payload as plain bytes.
-/

namespace FlowVerdict

structure TcpFlags where
  bits : UInt8
deriving DecidableEq

namespace TcpFlags

def empty : TcpFlags := ⟨0⟩

/-- The sender is done. -/
def fin : UInt8 := 1
/-- The sender opens a connection. -/
def syn : UInt8 := 2
/-- The sender aborts the connection. -/
def rst : UInt8 := 4
/-- The payload is to be delivered at once. -/
def psh : UInt8 := 8
/-- The segment acknowledges data. -/
def ack : UInt8 := 16

def has (f : TcpFlags) (mask : UInt8) : Bool := f.bits &&& mask != 0

def set (f : TcpFlags) (mask : UInt8) : TcpFlags := ⟨f.bits ||| mask⟩

def isTeardown (f : TcpFlags) : Bool := f.has fin || f.has rst

/-- The flag of a name, whatever the case of its letters. -/
def ofName? (name : String) : Option UInt8 :=
  match Text.lowerAscii name with
  | "fin" => some fin
  | "syn" => some syn
  | "rst" => some rst
  | "psh" => some psh
  | "ack" => some ack
  | _ => none

end TcpFlags

/-- The direction of a packet relative to the endpoint that opened its flow. -/
inductive Direction where
  /-- Sent by the endpoint that opened the flow. -/
  | forward
  /-- Sent to the endpoint that opened the flow. -/
  | reverse
deriving DecidableEq

namespace Direction

def name : Direction → String
  | .forward => "forward"
  | .reverse => "reverse"

/-- One for a forward packet, minus one for a packet in reverse. -/
def sign : Direction → Int
  | .forward => 1
  | .reverse => -1

end Direction

/-- A packet. Flags mean something only on TCP. -/
structure Packet where
  source : Endpoint
  target : Endpoint
  transport : Transport
  flags : TcpFlags
  payload : Payload
deriving DecidableEq

namespace Packet

def flow (p : Packet) : FlowId := FlowId.between p.source p.target p.transport

def isTcp (p : Packet) : Bool := p.transport = .tcp

def isTeardown (p : Packet) : Bool := p.isTcp && p.flags.isTeardown

/-- The direction of the packet if the endpoint opened the flow. -/
def directionFrom (p : Packet) (opener : Endpoint) : Direction :=
  if p.source = opener then .forward else .reverse

end Packet

end FlowVerdict
