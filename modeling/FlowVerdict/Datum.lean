/-!
Structured data as settings files, model descriptions and reports hold it, whatever the notation it
is written in.
-/

namespace FlowVerdict

/-- A value of structured data. The members of a table stand in the order in which they are
written. -/
inductive Datum where
  | null
  | boolean (b : Bool)
  | integer (n : Int)
  | real (x : Float)
  | text (s : String)
  | list (items : List Datum)
  | table (members : List (String × Datum))
deriving Inhabited

namespace Datum

/-- The integer in the range of natural numbers below the bound. -/
def natBelow? (bound : Nat) : Datum → Option Nat
  | .integer n => if 0 ≤ n ∧ n < bound then some n.toNat else none
  | _ => none

/-- A count: an integer of at most 64 bits without a sign. -/
def count? : Datum → Option Nat := natBelow? UInt64.size

def port? (d : Datum) : Option UInt16 := (d.natBelow? UInt16.size).map UInt16.ofNat

def byte? (d : Datum) : Option UInt8 := (d.natBelow? UInt8.size).map UInt8.ofNat

/-- A number in double precision. An integer stands for the nearest one. -/
def float? : Datum → Option Float
  | .integer n => some (Float.ofInt n)
  | .real x => some x
  | _ => none

/-- A number in single precision. An integer is rounded once, a real number twice. -/
def float32? : Datum → Option Float32
  | .integer n => some (Float32.ofInt n)
  | .real x => some x.toFloat32
  | _ => none

def boolean? : Datum → Option Bool
  | .boolean b => some b
  | _ => none

def text? : Datum → Option String
  | .text s => some s
  | _ => none

/-- A list with every item read. -/
def list? {α : Type} (item : Datum → Option α) : Datum → Option (List α)
  | .list items => items.mapM item
  | _ => none

end Datum

end FlowVerdict
