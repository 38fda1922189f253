import FlowVerdict.Decimal.Shortest

/-!
How the digits of a floating-point number are laid out: where positional notation ends, whether a
whole number keeps a point and a zero, and the texts of what is no number.
-/

namespace FlowVerdict.Decimal

/-- The decisions of a way to write floating-point numbers. The point of a number that is written
positionally lies above `least` and not above `greatest`, where these are given; all other numbers
are written as a digit, a fraction and an exponent. -/
structure Notation where
  least : Option Int
  greatest : Option Int
  pointZero : Bool
  tie : Tie
  nan : String
  infinity : String

namespace Notation

def zeros (n : Int) : List Char := List.replicate n.toNat '0'

def positional (n : Notation) (d : Digits) : List Char :=
  if d.point ≤ 0 then ['0', '.'] ++ zeros (-d.point) ++ d.digits
  else if d.digits.length ≤ d.point then
    d.digits ++ zeros (d.point - d.digits.length) ++ (if n.pointZero then ['.', '0'] else [])
  else d.digits.take d.point.toNat ++ ['.'] ++ d.digits.drop d.point.toNat

/-- One digit before the point and the exponent behind the rest. -/
def scientific (d : Digits) : List Char :=
  let whole := d.digits.take 1
  let fraction := d.digits.drop 1
  whole ++ (if fraction.isEmpty then [] else '.' :: fraction) ++ ['e'] ++
    (toString (d.point - 1)).toList

/-- The point lies where numbers are written positionally. -/
def isPositional (n : Notation) (point : Int) : Bool :=
  n.least.all (· < point) && n.greatest.all (point ≤ ·)

def write (n : Notation) (p : Parts) : String :=
  let sign (negative : Bool) : String := if negative then "-" else ""
  match p with
  | .nan => n.nan
  | .infinite negative => sign negative ++ n.infinity
  | .zero negative => sign negative ++ (if n.pointZero then "0.0" else "0")
  | .finite negative magnitude =>
    let d := magnitude.shortest n.tie
    let body := if n.isPositional d.point then n.positional d else scientific d
    sign negative ++ String.ofList body

/-- Messages write numbers positionally however long they get, whole ones without a point. -/
def message : Notation where
  least := none
  greatest := none
  pointZero := false
  tie := .up
  nan := "NaN"
  infinity := "inf"

/-- Reports write numbers positionally from five places behind the point to sixteen before it, and
whole ones with a point and a zero. A report has no text for what is no number. -/
def report : Notation where
  least := some (-5)
  greatest := some 16
  pointZero := true
  tie := .toEven
  nan := "null"
  infinity := "null"

end Notation

end FlowVerdict.Decimal
