import FlowVerdict.Datum
import FlowVerdict.Text.Numeral

/-!
Points in time as TOML spells them: a date, a time of day, or both with or without the difference to
universal time. Nothing that is read from a document takes one, so only the spelling matters.
-/

namespace FlowVerdict.Toml.Moment

abbrev Skip := List Char → Option (List Char)

def digits? (count : Nat) (cs : List Char) : Option (Nat × List Char) :=
  let ds := cs.take count
  if ds.length = count ∧ ds.all Char.isDigit then
    some (Text.Numeral.value 10 ds, cs.drop count)
  else none

/-- Two digits whose value lies between two bounds. -/
def pair? (least greatest : Nat) (cs : List Char) : Option (Nat × List Char) := do
  let (n, rest) ← digits? 2 cs
  if least ≤ n ∧ n ≤ greatest then return (n, rest) else none

def char (c : Char) : Skip
  | x :: rest => if x = c then some rest else none
  | [] => none

/-- Every fourth year has a day more, of the full centuries every fourth one. -/
def isLeapYear (year : Nat) : Bool := year % 4 == 0 && (year % 100 != 0 || year % 400 == 0)

def daysOf (year month : Nat) : Nat :=
  if month = 2 then (if isLeapYear year then 29 else 28)
  else if month = 4 ∨ month = 6 ∨ month = 9 ∨ month = 11 then 30
  else 31

def date : Skip := fun cs => do
  let (year, cs) ← digits? 4 cs
  let cs ← char '-' cs
  let (month, cs) ← pair? 1 12 cs
  let cs ← char '-' cs
  let (_, cs) ← pair? 1 (daysOf year month) cs
  return cs

/-- The digits of a fraction of a second, if there are any. -/
def fraction : Skip
  | '.' :: d :: rest => if d.isDigit then some (rest.dropWhile Char.isDigit) else none
  | '.' :: [] => none
  | cs => some cs

/-- A time of day. A minute may have a second more. -/
def time : Skip := fun cs => do
  let (_, cs) ← pair? 0 23 cs
  let cs ← char ':' cs
  let (_, cs) ← pair? 0 59 cs
  let cs ← char ':' cs
  let (_, cs) ← pair? 0 60 cs
  fraction cs

/-- The difference to universal time, if there is one. -/
def offset : Skip
  | 'Z' :: rest | 'z' :: rest => some rest
  | '+' :: rest | '-' :: rest => do
    let (_, cs) ← pair? 0 23 rest
    let cs ← char ':' cs
    let (_, cs) ← pair? 0 59 cs
    return cs
  | cs => some cs

/-- A time of day after a date, if there is one. -/
def timeAfter (cs : List Char) : Option (List Char) :=
  match cs with
  | 'T' :: rest | 't' :: rest | ' ' :: rest =>
    match time rest with
    | some rest => offset rest
    | none => some cs
  | cs => some cs

/-- A point in time. -/
def skip (cs : List Char) : Option (List Char) := (date cs >>= timeAfter).or (time cs)

/-- A point in time as a value: a table of its spelling, under a name that nothing else uses. -/
def read (cs : List Char) : Option (Datum × List Char) :=
  (skip cs).map fun rest =>
    (.table [("date-time", .text (String.ofList (cs.take (cs.length - rest.length))))], rest)

end FlowVerdict.Toml.Moment
