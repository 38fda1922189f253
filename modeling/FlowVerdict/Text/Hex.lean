import FlowVerdict.Text.Numeral
import FlowVerdict.Text.Quoted

/-!
Bytes spelled as pairs of hexadecimal digits. Digits are written in lower case and read in either
case, and nothing but digits is read.
-/

namespace FlowVerdict.Text.Hex

inductive Fault where
  /-- The text has an odd number of bytes. -/
  | oddLength
  /-- The byte at this position is no digit. -/
  | badDigit (byte : UInt8) (position : Nat)
deriving DecidableEq

def Fault.message : Fault → String
  | .oddLength => "Odd number of digits"
  | .badDigit byte position =>
    "Invalid character " ++ Quoted.char (Char.ofNat byte.toNat) ++ " at position " ++
      toString position

/-- The value of the digit that the byte is, found at the given position. -/
def digit (byte : UInt8) (position : Nat) : Except Fault Nat :=
  match Numeral.digitValue? 16 (Char.ofNat byte.toNat) with
  | some v => .ok v
  | none => .error (.badDigit byte position)

def decodePairs : Nat → List UInt8 → Except Fault (List UInt8)
  | i, hi :: lo :: rest => do
    let h ← digit hi i
    let l ← digit lo (i + 1)
    let bytes ← decodePairs (i + 2) rest
    return UInt8.ofNat (16 * h + l) :: bytes
  | _, _ => .ok []

/-- The bytes that a text spells. An odd length is reported before any bad digit. -/
def decode (s : String) : Except Fault (List UInt8) :=
  let bytes := s.toUTF8.toList
  if bytes.length % 2 = 1 then .error .oddLength else decodePairs 0 bytes

def encodeByte (b : UInt8) : List Char :=
  [Nat.digitChar (b.toNat / 16), Nat.digitChar (b.toNat % 16)]

def encode (bytes : List UInt8) : String := String.ofList (bytes.flatMap encodeByte)

end FlowVerdict.Text.Hex
