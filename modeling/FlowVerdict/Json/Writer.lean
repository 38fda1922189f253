import FlowVerdict.Datum
import FlowVerdict.Decimal.Notation
import FlowVerdict.Text.Numeral

/-!
Structured data written as JSON, on one line or with a line for every item.
-/

namespace FlowVerdict.Json.Writer

/-- One character inside a string. Quotes, backslashes and control characters are escaped. -/
def escape (c : Char) : List Char :=
  match c with
  | '"' => ['\\', '"']
  | '\\' => ['\\', '\\']
  | '\x08' => ['\\', 'b']
  | '\x0c' => ['\\', 'f']
  | '\n' => ['\\', 'n']
  | '\r' => ['\\', 'r']
  | '\t' => ['\\', 't']
  | c =>
    if c.toNat < 0x20 then
      ['\\', 'u', '0', '0', Nat.digitChar (c.toNat / 16), Nat.digitChar (c.toNat % 16)]
    else [c]

def quote (s : String) : String := String.ofList ('"' :: s.toList.flatMap escape ++ ['"'])

def scalar : Datum → Option String
  | .null => some "null"
  | .boolean b => some (if b then "true" else "false")
  | .integer n => some (toString n)
  | .real x => some (Decimal.Notation.report.write (.ofFloat x))
  | .text s => some (quote s)
  | _ => none

mutual

/-- The document on one line without blanks. -/
def compact : Datum → String
  | .list items => "[" ++ String.intercalate "," (compactItems items) ++ "]"
  | .table members => "\x7b" ++ String.intercalate "," (compactMembers members) ++ "\x7d"
  | d => (scalar d).getD ""

def compactItems : List Datum → List String
  | [] => []
  | item :: rest => compact item :: compactItems rest

def compactMembers : List (String × Datum) → List String
  | [] => []
  | (key, value) :: rest => (quote key ++ ":" ++ compact value) :: compactMembers rest

end

/-- Lines set in by two more blanks than those of the list or table that they stand in, between its
brackets. -/
def block (indent : Nat) (left right : String) (lines : List String) : String :=
  if lines.isEmpty then left ++ right
  else
    let margin (n : Nat) := String.ofList ('\n' :: List.replicate n ' ')
    left ++ margin (indent + 2) ++ String.intercalate ("," ++ margin (indent + 2)) lines ++
      margin indent ++ right

mutual

/-- The document with every item on a line of its own. -/
def spread (indent : Nat) : Datum → String
  | .list items => block indent "[" "]" (spreadItems indent items)
  | .table members => block indent "\x7b" "\x7d" (spreadMembers indent members)
  | d => (scalar d).getD ""

def spreadItems (indent : Nat) : List Datum → List String
  | [] => []
  | item :: rest => spread (indent + 2) item :: spreadItems indent rest

def spreadMembers (indent : Nat) : List (String × Datum) → List String
  | [] => []
  | (key, value) :: rest =>
    (quote key ++ ": " ++ spread (indent + 2) value) :: spreadMembers indent rest

end

end FlowVerdict.Json.Writer
