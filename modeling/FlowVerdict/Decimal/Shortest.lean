/-!
The fewest decimal digits that identify a floating-point number.

A finite positive number is `m * 2 ^ q`. The reals that round to it reach halfway to its two
neighbours, ends included exactly when `m` is even. The decimals of a grid `10 ^ k` that come into
question are the two around the number, so the grids are tried from coarse to fine and the first
with a decimal in the interval gives the digits; of two the nearer one is taken.
-/

namespace FlowVerdict.Decimal

/-- A positive number `mantissa * 2 ^ exponent`. Below a power of two the numbers lie twice as
densely, which `narrowBelow` tells. -/
structure Binary where
  mantissa : Nat
  exponent : Int
  narrowBelow : Bool

/-- Which way a number goes that lies halfway between two decimals of a grid. -/
inductive Tie where
  /-- To the decimal with the even last digit. -/
  | toEven
  /-- To the greater decimal. -/
  | up

namespace Binary

/-- The factors that compare `d * 10 ^ k` with a count `u` of quarters of `2 ^ exponent`: the first
is not above the second exactly when `d * grid ≤ u * quarter`. -/
structure Scale where
  grid : Nat
  quarter : Nat

/-- The common scale of the grid `10 ^ k` and the quarters of the number's last place. -/
def scale (b : Binary) (k : Int) : Scale :=
  let q := b.exponent - 2
  ⟨Nat.pow 10 k.toNat * Nat.pow 2 (-q).toNat, Nat.pow 10 (-k).toNat * Nat.pow 2 q.toNat⟩

/-- The lower end of the interval, in quarters of the last place. -/
def lower (b : Binary) : Nat := 4 * b.mantissa - (if b.narrowBelow then 1 else 2)

/-- The upper end of the interval, in quarters of the last place. -/
def upper (b : Binary) : Nat := 4 * b.mantissa + 2

/-- The decimal `d * 10 ^ k` rounds to the number. -/
def readsBack (b : Binary) (s : Scale) (d : Nat) : Bool :=
  let x := d * s.grid
  let lo := b.lower * s.quarter
  let hi := b.upper * s.quarter
  if b.mantissa % 2 = 0 then lo ≤ x && x ≤ hi else lo < x && x < hi

/-- Of the decimals `d` and `d + 1` of a grid that both read back, the one to write. -/
def nearer (b : Binary) (tie : Tie) (s : Scale) (d : Nat) : Nat :=
  let double := 8 * b.mantissa * s.quarter
  let middle := (2 * d + 1) * s.grid
  if double < middle then d
  else if middle < double then d + 1
  else match tie with
    | .up => d + 1
    | .toEven => if d % 2 = 0 then d else d + 1

/-- The decimal of the grid `10 ^ k` that stands for the number, if one does. -/
def onGrid? (b : Binary) (tie : Tie) (k : Int) : Option Nat :=
  let s := b.scale k
  let d := 4 * b.mantissa * s.quarter / s.grid
  match d != 0 && b.readsBack s d, b.readsBack s (d + 1) with
  | true, true => some (b.nearer tie s d)
  | true, false => some d
  | false, true => some (d + 1)
  | false, false => none

/-- An exponent with `10 ^ k` not below the number, and at most two places above its size. -/
def topExponent (b : Binary) : Int :=
  (((b.mantissa.log2 + 1 : Nat) : Int) + b.exponent) * 30103 / 100000 + 1

/-- The first decimal found on the grids from `10 ^ k` downwards. -/
def search (b : Binary) (tie : Tie) : Nat → Int → Nat × Int
  | 0, k => (4 * b.mantissa * (b.scale k).quarter / (b.scale k).grid, k)
  | n + 1, k =>
    match b.onGrid? tie k with
    | some d => (d, k)
    | none => search b tie n (k - 1)

end Binary

/-- Digits `d₁ d₂ …` and a point: the number `0.d₁d₂… * 10 ^ point`. -/
structure Digits where
  digits : List Char
  point : Int

/-- The fewest digits that identify the number. Twenty grids are more than any number needs. -/
def Binary.shortest (b : Binary) (tie : Tie) : Digits :=
  let (d, k) := b.search tie 20 b.topExponent
  let all := Nat.toDigits 10 d
  ⟨(all.reverse.dropWhile (· == '0')).reverse, k + all.length⟩

/-- A floating-point number taken apart. -/
inductive Parts where
  | nan
  | infinite (negative : Bool)
  | zero (negative : Bool)
  | finite (negative : Bool) (magnitude : Binary)

/-- The parts of a number with `fractionBits` bits behind its leading one and `exponentBits` bits of
exponent, given as its bit pattern. -/
def Parts.ofPattern (fractionBits exponentBits : Nat) (pattern : Nat) : Parts :=
  let leading := Nat.pow 2 fractionBits
  let fraction := pattern % leading
  let exponent := pattern / leading % Nat.pow 2 exponentBits
  let negative := pattern / Nat.pow 2 (fractionBits + exponentBits) % 2 = 1
  let top := Nat.pow 2 exponentBits - 1
  let shift : Int := (Nat.pow 2 (exponentBits - 1) : Int) - 2 + fractionBits
  if exponent = top then (if fraction = 0 then .infinite negative else .nan)
  else if exponent = 0 then
    if fraction = 0 then .zero negative else .finite negative ⟨fraction, -shift, false⟩
  else
    .finite negative ⟨leading + fraction, (exponent : Int) - 1 - shift, fraction = 0⟩

def Parts.ofFloat (x : Float) : Parts := .ofPattern 52 11 x.toBits.toNat

def Parts.ofFloat32 (x : Float32) : Parts := .ofPattern 23 8 x.toBits.toNat

end FlowVerdict.Decimal
