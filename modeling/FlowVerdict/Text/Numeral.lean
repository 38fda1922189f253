/-!
Numbers written in a base: the digits of a number, most significant first, and the value of a run
of digits. Hexadecimal digits are written in lower case and read in either.
-/

namespace FlowVerdict.Text.Numeral

/-- The digits of a number, most significant first. Zero has one digit. -/
def digits (base n : Nat) : List Char := Nat.toDigits base n

def decimal (n : Nat) : List Char := digits 10 n

def digitValue? (base : Nat) (c : Char) : Option Nat :=
  let v :=
    if '0' ≤ c ∧ c ≤ '9' then c.toNat - '0'.toNat
    else if 'a' ≤ c ∧ c ≤ 'z' then c.toNat - 'a'.toNat + 10
    else if 'A' ≤ c ∧ c ≤ 'Z' then c.toNat - 'A'.toNat + 10
    else base
  if v < base then some v else none

def isDigit (base : Nat) (c : Char) : Bool := (digitValue? base c).isSome

def value (base : Nat) (cs : List Char) : Nat :=
  cs.foldl (fun n c => n * base + (digitValue? base c).getD 0) 0

/-- What a reader of numbers accepts: the base, the greatest count of digits, whether a leading zero
may stand before other digits, and the bound that the value has to stay below. -/
structure Format where
  base : Nat
  maxDigits : Option Nat
  leadingZeros : Bool
  bound : Nat

/-- The longest run of digits at the front, read as a number, and what follows it. -/
def Format.read (f : Format) (cs : List Char) : Option (Nat × List Char) :=
  let run := cs.takeWhile (isDigit f.base)
  let rest := cs.dropWhile (isDigit f.base)
  let tooMany := match f.maxDigits with
    | some m => run.length > m
    | none => false
  let badZero := !f.leadingZeros && run.head? == some '0' && run.length > 1
  let n := value f.base run
  if run.isEmpty || tooMany || badZero || n ≥ f.bound then none else some (n, rest)

end FlowVerdict.Text.Numeral
