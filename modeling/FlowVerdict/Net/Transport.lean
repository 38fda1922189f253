import FlowVerdict.Datum.Record

/-!
Transport protocols, by the number that an internet packet gives for them.
-/

namespace FlowVerdict

/-- A transport protocol. Another protocol is never the same as one of the two named ones, even
under its number. -/
inductive Transport where
  | tcp
  | udp
  | other (number : UInt8)
deriving DecidableEq, Inhabited

namespace Transport

def number : Transport → UInt8
  | .tcp => 6
  | .udp => 17
  | .other n => n

def ofNumber (n : UInt8) : Transport :=
  if n = 6 then .tcp else if n = 17 then .udp else .other n

def hasPorts : Transport → Bool
  | .tcp | .udp => true
  | .other _ => false

def name : Transport → String
  | .tcp => "tcp"
  | .udp => "udp"
  | .other n => "ip-proto-" ++ toString n.toNat

/-- The protocol as structured data spells it: its name, or a table of the other protocol's
number. -/
def ofDatum? (dialect : Datum.Dialect) (d : Datum) : Option Transport :=
  match d.alternative? dialect with
  | some "tcp" => some .tcp
  | some "udp" => some .udp
  | _ =>
    match d with
    | .table [("other", n)] => n.byte?.map .other
    | _ => none

def datum : Transport → Datum
  | .other n => .table [("other", .integer n.toNat)]
  | t => .text t.name

end Transport

end FlowVerdict
