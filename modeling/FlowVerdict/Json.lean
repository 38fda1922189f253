import FlowVerdict.Datum.Record
import FlowVerdict.Json.Number

/-!
JSON documents as they are spelled, before their numbers and texts are given a meaning: a number may
be out of range and a text may hold half of a surrogate pair, which matters only where the value is
used. Members keep their order and repetitions.
-/

namespace FlowVerdict

/-- A JSON document. A text or key is `none` where an escape names half of a surrogate pair, which
no text can hold. -/
inductive Json where
  | null
  | boolean (b : Bool)
  | number (n : Json.Number)
  | string (s : Option String)
  | array (items : List Json)
  | object (members : List (Option String × Json))
deriving Inhabited

namespace Json

mutual

/-- What the document stands for, unless some part of it has no meaning. -/
def datum? : Json → Option Datum
  | .null => some .null
  | .boolean b => some (.boolean b)
  | .number n => n.datum?
  | .string s => s.map .text
  | .array items => (itemData? items).map .list
  | .object members => (memberData? members).map .table

def itemData? : List Json → Option (List Datum)
  | [] => some []
  | item :: rest => do
    let d ← item.datum?
    let ds ← itemData? rest
    return d :: ds

def memberData? : List (Option String × Json) → Option (List (String × Datum))
  | [] => some []
  | (key, value) :: rest => do
    let k ← key
    let d ← value.datum?
    let ds ← memberData? rest
    return (k, d) :: ds

end

/-- The document without the members whose key is not among the names. Their values need no meaning,
but every key has to be a text. -/
def select? (names : List String) : Json → Option Json
  | .object members =>
    if members.all (·.1.isSome) then
      some (.object (members.filter fun m => m.1.any names.contains))
    else none
  | other => some other

/-- In JSON the unit is null, and a list holds no more values than its record has fields. -/
def dialect : Datum.Dialect where
  isUnit
    | .null => true
    | _ => false
  ignoresTail := false

end Json

end FlowVerdict
