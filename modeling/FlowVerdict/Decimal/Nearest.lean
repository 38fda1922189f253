/-!
The double-precision number nearest to a decimal.
-/

namespace FlowVerdict.Decimal

/-- The number nearest to `m * 10 ^ e`, the even one of two. A decimal of more than 400 places
before the point is infinite and one with as many zeros behind it is zero, so that no power of ten
has to be computed for them. -/
def nearest (m : Nat) (e : Int) : Float :=
  let size : Int := (Nat.toDigits 10 m).length + e
  if m = 0 || size < -400 then 0
  else if 400 < size then 1 / 0
  else if 0 ≤ e then Float.ofScientific m false e.toNat
  else Float.ofScientific m true (-e).toNat

end FlowVerdict.Decimal
