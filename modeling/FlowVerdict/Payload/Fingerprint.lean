import FlowVerdict.Payload.Statistics
import FlowVerdict.Verdict

/-!
The fingerprint of an obfuscated payload: bytes that look like uniformly distributed ciphertext
rather than a cleartext protocol, on ports that no cleartext service is known by. A fingerprint
judges one payload and keeps no memory.
-/

namespace FlowVerdict

/-- A payload with more consecutive printable bytes than this counts as cleartext. -/
def printableRunLimit : Nat := 20

/-- The index of the byte at which the start of a payload is judged. -/
def prefixIndex : Nat := 6

/-- Why a payload was judged as it was. -/
inductive Finding where
  /-- The mean number of set bits lies inside the band. -/
  | balancedPopcount
  /-- Six printable bytes among the first seven. -/
  | cleartextPrefix
  /-- A printable run over the limit. -/
  | printableRun
  /-- More than half of the bytes are printable. -/
  | majorityPrintable
  /-- One of the two ports is exempt. -/
  | exemptPort
  /-- No exemption holds. -/
  | obfuscated
deriving DecidableEq

namespace Finding

/-- Only an obfuscated payload is dropped. -/
def verdict : Finding → Verdict
  | .obfuscated => .drop
  | _ => .pass

def label : Finding → String
  | .balancedPopcount => "balanced_popcount"
  | .cleartextPrefix => "cleartext_prefix"
  | .printableRun => "printable_run"
  | .majorityPrintable => "majority_printable"
  | .exemptPort => "exempt_port"
  | .obfuscated => "obfuscated"

end Finding

/-- The band of mean set bits inside which a payload always goes through, both ends outside it, and
the ports on which no payload is dropped. -/
structure Fingerprint where
  bandLow : Float
  bandHigh : Float
  exemptPorts : List UInt16

namespace Fingerprint

def isExempt (f : Fingerprint) (port : UInt16) : Bool := f.exemptPorts.contains port

/-- The mean lies strictly inside the band. No mean lies in a band with an end that is no number. -/
def inBand (f : Fingerprint) (mean : Float) : Bool := f.bandLow < mean && mean < f.bandHigh

/-- The scan of a payload from the byte at `index` on, `printable` bytes before it being printable.
It comes to the number of printable bytes, unless a finding ends it early. The run that a byte
belongs to starts anew with every byte. -/
def scan (index printable : Nat) : Payload → Except Finding Nat
  | [] => .ok printable
  | b :: rest =>
    let run := if Payload.isPrintable b then 1 else 0
    let printable := printable + run
    if !Payload.isPrintable b && run > printableRunLimit then .error .printableRun
    else if index = prefixIndex && printable = prefixIndex then .error .cleartextPrefix
    else scan (index + 1) printable rest

/-- The finding on a payload sent between two ports. -/
def inspect (f : Fingerprint) (p : Payload) (source target : UInt16) : Finding :=
  if f.inBand p.averagePopcount then .balancedPopcount
  else
    match scan 0 0 p with
    | .error finding => finding
    | .ok printable =>
      if printable > p.length / 2 then .majorityPrintable
      else if f.isExempt source || f.isExempt target then .exemptPort
      else .obfuscated

def judge (f : Fingerprint) (p : Payload) (source target : UInt16) : Verdict :=
  (f.inspect p source target).verdict

end Fingerprint

end FlowVerdict
