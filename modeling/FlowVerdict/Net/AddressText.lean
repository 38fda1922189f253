import FlowVerdict.Net.Address
import FlowVerdict.Text.Numeral
import FlowVerdict.Text.Split

/-!
The text of addresses. Four-byte addresses are written in dotted decimals. Sixteen-byte addresses
are written as groups of hexadecimal digits between colons, the first of the longest runs of two or
more zero groups left out, and an address that stands for a four-byte one ends in its dotted form. A
reader accepts every such text, whatever run is left out and whether or not the last two groups are
dotted.
-/

namespace FlowVerdict.AddressText

open Text (Numeral.digits Numeral.Format)

abbrev Reader (α : Type) := List Char → Option (α × List Char)

/-! ### Writing -/

def dotted (bytes : List UInt8) : List Char :=
  Text.join '.' (bytes.map fun b => Numeral.digits 10 b.toNat)

def colons (groups : List UInt16) : List Char :=
  Text.join ':' (groups.map fun g => Numeral.digits 16 g.toNat)

structure ZeroRun where
  start : Nat
  length : Nat

/-- The first of the longest runs of zero groups. `current` is the run that ends at index `i`, and
`longest` the one to write so far. -/
def longestZeroRun (i : Nat) (current longest : ZeroRun) : List UInt16 → ZeroRun
  | [] => longest
  | g :: rest =>
    if g = 0 then
      let current : ZeroRun := ⟨if current.length = 0 then i else current.start, current.length + 1⟩
      longestZeroRun (i + 1) current (if longest.length < current.length then current else longest)
        rest
    else longestZeroRun (i + 1) ⟨0, 0⟩ longest rest

/-- Eight groups, a run of two or more zero groups left out. -/
def compressed (groups : List UInt16) : List Char :=
  let run := longestZeroRun 0 ⟨0, 0⟩ ⟨0, 0⟩ groups
  if 1 < run.length then
    colons (groups.take run.start) ++ [':', ':'] ++ colons (groups.drop (run.start + run.length))
  else colons groups

def bytesOfGroup (g : UInt16) : List UInt8 := [(g >>> 8).toUInt8, g.toUInt8]

def write : Address → List Char
  | .v4 bytes => dotted bytes.toList
  | .v6 groups =>
    match groups.toList with
    | [0, 0, 0, 0, 0, 0xffff, g, h] =>
      "::ffff:".toList ++ dotted (bytesOfGroup g ++ bytesOfGroup h)
    | all => compressed all

/-! ### Reading -/

/-- A byte in decimal, without leading zeros. -/
def byteFormat : Numeral.Format := ⟨10, some 3, false, UInt8.size⟩

/-- A group of at most four hexadecimal digits. -/
def groupFormat : Numeral.Format := ⟨16, some 4, true, UInt16.size⟩

def after {α : Type} (c : Char) (read : Reader α) : Reader α
  | x :: rest => if x = c then read rest else none
  | [] => none

def byte : Reader UInt8 := fun cs => (byteFormat.read cs).map fun (n, rest) => (UInt8.ofNat n, rest)

def group : Reader UInt16 := fun cs =>
  (groupFormat.read cs).map fun (n, rest) => (UInt16.ofNat n, rest)

def fourBytes : Reader (Vector UInt8 4) := fun cs => do
  let (a, cs) ← byte cs
  let (b, cs) ← after '.' byte cs
  let (c, cs) ← after '.' byte cs
  let (d, cs) ← after '.' byte cs
  return (Address.quad a b c d, cs)

def groupsOfBytes (bytes : Vector UInt8 4) : List UInt16 :=
  [UInt16.ofNat (bytes[0].toNat * 256 + bytes[1].toNat),
   UInt16.ofNat (bytes[2].toNat * 256 + bytes[3].toNat)]

structure GroupRun where
  groups : List UInt16
  /-- The last two groups are written as four bytes. -/
  endsDotted : Bool
  rest : List Char

/-- As many groups as there are, at most `limit`, with colons between them; a colon comes first
unless these are the first groups of the text. Where two more groups may follow, four bytes are
tried first, and they end the run. -/
def groupRun (first : Bool) : (limit : Nat) → List Char → GroupRun
  | 0, cs => ⟨[], false, cs⟩
  | limit + 1, cs =>
    let separated {α : Type} (read : Reader α) : Reader α := if first then read else after ':' read
    match (if limit = 0 then none else separated fourBytes cs) with
    | some (bytes, rest) => ⟨groupsOfBytes bytes, true, rest⟩
    | none =>
      match separated group cs with
      | some (g, rest) =>
        let more := groupRun false limit rest
        { more with groups := g :: more.groups }
      | none => ⟨[], false, cs⟩

/-- Eight groups, or fewer with two colons for the zero groups left out. At least one is left
out. -/
def eightGroups : Reader (List UInt16) := fun cs =>
  let head := groupRun true 8 cs
  if head.groups.length = 8 then some (head.groups, head.rest)
  else if head.endsDotted then none
  else
    match head.rest with
    | ':' :: ':' :: rest =>
      let tail := groupRun true (7 - head.groups.length) rest
      let zeros := List.replicate (8 - head.groups.length - tail.groups.length) 0
      some (head.groups ++ zeros ++ tail.groups, tail.rest)
    | _ => none

/-- A sixteen-byte address. -/
def sixteenBytes : Reader Address := fun cs => do
  let (groups, rest) ← eightGroups cs
  let address ← Address.ofGroups? groups
  return (address, rest)

end FlowVerdict.AddressText
