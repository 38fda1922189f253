import FlowVerdict.Verdict

/-!
The counters of a monitor.
-/

namespace FlowVerdict

structure Tally where
  /-- Packets handed over. -/
  packets : Nat
  /-- Payload bytes of these packets. -/
  bytes : Nat
  /-- Packets that went through. -/
  passed : Nat
  /-- Packets dropped. -/
  dropped : Nat
  /-- Packets answered by a reset. -/
  reset : Nat
  /-- Flows that came under observation. -/
  flowsCreated : Nat
  /-- Flows that left the table. -/
  flowsEvicted : Nat
  /-- Questions to the scorer. -/
  scorerCalls : Nat
  /-- Questions without an answer. -/
  scorerFailures : Nat
  /-- Packets answered by the settled verdict of their flow. -/
  latchedHits : Nat
deriving DecidableEq

namespace Tally

def zero : Tally := ⟨0, 0, 0, 0, 0, 0, 0, 0, 0, 0⟩

def packet (t : Tally) (bytes : Nat) : Tally :=
  { t with packets := t.packets + 1, bytes := t.bytes + bytes }

def verdict (t : Tally) : Verdict → Tally
  | .pass => { t with passed := t.passed + 1 }
  | .drop => { t with dropped := t.dropped + 1 }
  | .reset => { t with reset := t.reset + 1 }

def created (t : Tally) : Tally := { t with flowsCreated := t.flowsCreated + 1 }

def evicted (t : Tally) (count : Nat) : Tally := { t with flowsEvicted := t.flowsEvicted + count }

def called (t : Tally) : Tally := { t with scorerCalls := t.scorerCalls + 1 }

def failed (t : Tally) : Tally := { t with scorerFailures := t.scorerFailures + 1 }

/-- One more packet answered by a settled verdict. -/
def hit (t : Tally) : Tally := { t with latchedHits := t.latchedHits + 1 }

def activeFlows (t : Tally) : Nat := t.flowsCreated - t.flowsEvicted

/-- The share of packets answered without a look at them. -/
def hitRate (t : Tally) : Float :=
  if t.packets = 0 then 0 else Float.ofNat t.latchedHits / Float.ofNat t.packets

end Tally

end FlowVerdict
