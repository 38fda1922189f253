import FlowVerdict.Json.Reader
import FlowVerdict.Packet
import FlowVerdict.Text.Hex

/-!
Records of a trace, one JSON document each. A record spells a packet, its payload in hexadecimal and
its flags by name, or says that the host ends a flow.
-/

namespace FlowVerdict

/-- A record as it is spelled. -/
structure TraceRecord where
  source : Endpoint
  target : Endpoint
  transport : Transport
  payload : String
  flags : List String
  /-- The host ends the flow; payload and flags do not matter. -/
  ends : Bool

inductive TraceFault where
  /-- The line spells no record. -/
  | malformed
  /-- The payload spells no bytes. -/
  | payload (fault : Text.Hex.Fault)
  /-- A flag has no such name. -/
  | unknownFlag (name : String)
deriving DecidableEq

def payloadMessage (fault : Text.Hex.Fault) : String :=
  "payload is not valid hex: " ++ fault.message

/-- The wording of a fault. The name of a flag is shown in lower case. -/
def TraceFault.message : TraceFault → String
  | .malformed => "malformed trace record"
  | .payload fault => payloadMessage fault
  | .unknownFlag name => "unknown TCP flag " ++ Text.Quoted.text (Text.lowerAscii name)

inductive TraceEvent where
  | packet (p : Packet)
  | close (flow : FlowId)
deriving DecidableEq

namespace TraceRecord

def fieldNames : List String := ["src", "dst", "proto", "payload", "flags", "end"]

def endpoint? (d : Datum) : Option Endpoint := d.text?.bind Endpoint.ofText?

/-- The record that structured data spells. Only the endpoints have to be there. -/
def ofDatum? (d : Datum) : Option TraceRecord := do
  match ← d.fields? Json.dialect fieldNames with
  | [some source, some target, transport, payload, flags, ends] =>
    return {
      source := ← endpoint? source
      target := ← endpoint? target
      transport := ← Datum.orDefault (Transport.ofDatum? Json.dialect) .tcp transport
      payload := ← Datum.orDefault Datum.text? "" payload
      flags := ← Datum.orDefault (·.list? Datum.text?) [] flags
      ends := ← Datum.orDefault Datum.boolean? false ends
    }
  | _ => none

def ofLine (line : String) : Except TraceFault TraceRecord :=
  match (Json.Reader.document? line).bind Json.datum? |>.bind ofDatum? with
  | some record => .ok record
  | none => .error .malformed

def flow (r : TraceRecord) : FlowId := FlowId.between r.source r.target r.transport

/-- The flags together with those of the given names. -/
def withFlags (flags : TcpFlags) : List String → Except TraceFault TcpFlags
  | [] => .ok flags
  | name :: rest =>
    match TcpFlags.ofName? name with
    | some mask => withFlags (flags.set mask) rest
    | none => .error (.unknownFlag name)

/-- The payload of a record, blanks around its spelling aside. -/
def payloadBytes (r : TraceRecord) : Except TraceFault Payload :=
  (Text.Hex.decode (Text.trim r.payload)).mapError .payload

def event (r : TraceRecord) : Except TraceFault TraceEvent := do
  if r.ends then return .close r.flow
  let payload ← r.payloadBytes
  let flags ← withFlags .empty r.flags
  return .packet ⟨r.source, r.target, r.transport, flags, payload⟩

end TraceRecord

end FlowVerdict
