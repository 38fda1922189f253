import FlowVerdict.Datum
import FlowVerdict.Text.Numeral

/-!
Numbers as JSON spells them, and what they stand for.

A whole number that fits in 64 bits is an integer. Any other number is read in double precision from
a significand of at most 64 bits: digits that no longer fit are cut off, and the power of ten is
then applied in one multiplication or division, or in steps of `10 ^ 308` where it lies beyond one.
-/

namespace FlowVerdict.Json

/-- A number as it is spelled: sign, the digits before the point, the digits behind it, and the sign
and digits of the exponent. The digits are given by their values. -/
structure Number where
  negative : Bool
  whole : List Nat
  fraction : List Nat
  exponent : Option (Bool × List Nat)
deriving Inhabited

namespace Number

/-- Digits appended to a significand as long as it stays in 64 bits, and the digits left over. -/
def gather (s : Nat) : List Nat → Nat × List Nat
  | [] => (s, [])
  | d :: ds => if s * 10 + d < UInt64.size then gather (s * 10 + d) ds else (s, d :: ds)

def value (ds : List Nat) : Nat := ds.foldl (fun n d => n * 10 + d) 0

def powerOfTen (n : Nat) : Float := Float.ofScientific 1 false n

/-- Division by a power of ten, in steps where it lies beyond the range of one. -/
def scaleDown (x : Float) (n : Nat) : Float :=
  if n ≤ 308 then x / powerOfTen n
  else if x == 0 then x
  else scaleDown (x / powerOfTen 308) (n - 308)
termination_by n

/-- Multiplication by a power of ten, refused where the product is out of range. -/
def scaleUp? (x : Float) (n : Nat) : Option Float :=
  if n ≤ 308 then
    let y := x * powerOfTen n
    if y.isInf then none else some y
  else if x == 0 then some x
  else none

/-- The exponent that a number spells out. -/
def spelledExponent (n : Number) : Int :=
  match n.exponent with
  | none => 0
  | some (negative, ds) => if negative then -(value ds : Int) else value ds

/-- The magnitude of a number in double precision, unless it is out of range. -/
def magnitude? (n : Number) : Option Float :=
  let (s, wholeLeft) := gather 0 n.whole
  let (s, fractionLeft) := gather s n.fraction
  let shift : Int := wholeLeft.length - (n.fraction.length - fractionLeft.length : Nat)
  let e := shift + n.spelledExponent
  if 0 ≤ e then scaleUp? (Float.ofNat s) e.toNat
  else some (scaleDown (Float.ofNat s) (-e).toNat)

/-- The number in double precision, unless it is out of range. -/
def float? (n : Number) : Option Float :=
  n.magnitude?.map fun x => if n.negative then -x else x

/-- What the number stands for. Negative zero is no integer. -/
def datum? (n : Number) : Option Datum :=
  let v := value n.whole
  if n.fraction.isEmpty && n.exponent.isNone then
    if !n.negative && v < UInt64.size then some (.integer v)
    else if n.negative && 0 < v && 2 * v ≤ UInt64.size then some (.integer (-(v : Int)))
    else n.float?.map .real
  else n.float?.map .real

end Number

end FlowVerdict.Json
