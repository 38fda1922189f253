import FlowVerdict.Packet

/-!
Features: the numbers that a packet contributes to the window of its flow.
-/

namespace FlowVerdict

inductive Feature where
  /-- The length of the payload in bytes. -/
  | payloadLength
  /-- One from the endpoint that opened the flow, minus one to it. -/
  | direction
  /-- The entropy of the payload. -/
  | payloadEntropy
  /-- The mean number of set bits of a payload byte. -/
  | payloadPopcount
  /-- The share of printable bytes in the payload. -/
  | printableRatio
deriving DecidableEq

namespace Feature

def name : Feature → String
  | .payloadLength => "payload_len"
  | .direction => "direction"
  | .payloadEntropy => "payload_entropy"
  | .payloadPopcount => "payload_popcount"
  | .printableRatio => "printable_ratio"

def all : List Feature :=
  [.payloadLength, .direction, .payloadEntropy, .payloadPopcount, .printableRatio]

def ofName? (name : String) : Option Feature := all.find? (·.name == name)

end Feature

def Direction.value (d : Direction) : Float32 := Float32.ofInt d.sign

namespace Feature

def value (f : Feature) (p : Packet) (d : Direction) : Float32 :=
  match f with
  | .payloadLength => Float32.ofNat p.payload.length
  | .direction => d.value
  | .payloadEntropy => p.payload.entropy.toFloat32
  | .payloadPopcount => p.payload.averagePopcount.toFloat32
  | .printableRatio => p.payload.printableRatio.toFloat32

end Feature

end FlowVerdict
