/-!
Internet addresses and the order on them. Addresses are compared as numbers, and every four-byte
address lies below every sixteen-byte one.
-/

namespace FlowVerdict

/-- An address: four bytes, or eight groups of two bytes. -/
inductive Address where
  | v4 (bytes : Vector UInt8 4)
  | v6 (groups : Vector UInt16 8)
deriving DecidableEq

/-- The number whose digits in a base are the given ones, most significant first. -/
def positionalValue (base : Nat) (digits : List Nat) : Nat :=
  digits.foldl (fun n d => n * base + d) 0

namespace Address

def byteDigits (bytes : Vector UInt8 4) : List Nat := bytes.toList.map UInt8.toNat

def groupDigits (groups : Vector UInt16 8) : List Nat := groups.toList.map UInt16.toNat

/-- The place of an address in the order of all addresses. -/
def rank : Address → Nat
  | .v4 bytes => positionalValue UInt8.size (byteDigits bytes)
  | .v6 groups => UInt32.size + positionalValue UInt16.size (groupDigits groups)

def quad (a b c d : UInt8) : Vector UInt8 4 := #v[a, b, c, d]

def ofBytes (a b c d : UInt8) : Address := .v4 (quad a b c d)

def ofGroups? (groups : List UInt16) : Option Address :=
  if h : groups.toArray.size = 8 then some (.v6 ⟨groups.toArray, h⟩) else none

end Address

end FlowVerdict
