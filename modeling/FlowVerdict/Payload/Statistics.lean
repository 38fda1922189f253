/-!
Statistics of a payload's bytes: mean number of set bits, printable bytes, the longest printable
run, and the entropy of the byte values. All of them are zero for an empty payload.
-/

namespace FlowVerdict

abbrev Payload := List UInt8

namespace Payload

/-- Printable ASCII, from the space to the tilde. -/
def isPrintable (b : UInt8) : Bool := 0x20 ≤ b && b ≤ 0x7e

/-- The number of set bits of a byte. -/
def bitCount (b : UInt8) : Nat := (List.range 8).countP fun i => b.toNat.testBit i

def setBits (p : Payload) : Nat := p.foldl (fun n b => n + bitCount b) 0

def perByte (p : Payload) (count : Nat) : Float :=
  if p.isEmpty then 0 else Float.ofNat count / Float.ofNat p.length

def averagePopcount (p : Payload) : Float := p.perByte p.setBits

def printableCount (p : Payload) : Nat := p.countP isPrintable

/-- The share of printable bytes. -/
def printableRatio (p : Payload) : Float := p.perByte p.printableCount

/-- A scan for the longest printable run: the run that ends here, and the longest one so far. -/
structure RunScan where
  current : Nat
  longest : Nat

/-- A printable byte extends the current run; any other byte ends it. -/
def RunScan.step (s : RunScan) (b : UInt8) : RunScan :=
  if isPrintable b then ⟨s.current + 1, max s.longest (s.current + 1)⟩ else ⟨0, s.longest⟩

def longestPrintableRun (p : Payload) : Nat := (p.foldl RunScan.step ⟨0, 0⟩).longest

def histogram (p : Payload) : Array Nat :=
  p.foldl (fun h b => h.modify b.toNat (· + 1)) (Array.replicate 256 0)

/-- The entropy of the byte values in bits for each byte. The terms are subtracted in the order of
the byte values, which fixes the rounding. -/
def entropy (p : Payload) : Float :=
  let length := Float.ofNat p.length
  p.histogram.toList.foldl (fun e count =>
    if count = 0 then e
    else
      let share := Float.ofNat count / length
      e - share * share.log2) 0

structure Statistics where
  length : Nat
  averagePopcount : Float
  printableCount : Nat
  printableRatio : Float
  longestPrintableRun : Nat
  entropy : Float
deriving BEq

def Statistics.zero : Statistics := ⟨0, 0, 0, 0, 0, 0⟩

def statistics (p : Payload) : Statistics where
  length := p.length
  averagePopcount := p.averagePopcount
  printableCount := p.printableCount
  printableRatio := p.printableRatio
  longestPrintableRun := p.longestPrintableRun
  entropy := p.entropy

end Payload

end FlowVerdict
