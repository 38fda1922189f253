import FlowVerdict.Datum

/-!
Records: structured data with a fixed list of fields. A record is a table of its fields, or the list
of their values in order. An absent field has its default, a field given twice and an unknown field
are refused.
-/

namespace FlowVerdict.Datum

/-- What the notations of structured data leave open. -/
structure Dialect where
  /-- The value that stands beside the name of an alternative written as a table. -/
  isUnit : Datum → Bool
  /-- A list may hold more values than its record has fields. -/
  ignoresTail : Bool

/-- The values of a record's fields, in the order of the fields. -/
def fields? (dialect : Dialect) (names : List String) : Datum → Option (List (Option Datum))
  | .table members =>
    let keys := members.map Prod.fst
    if keys.all names.contains && keys.eraseDups.length == keys.length then
      some (names.map fun name => members.lookup name)
    else none
  | .list items =>
    if items.length ≤ names.length || dialect.ignoresTail then
      some ((items.map some ++ List.replicate names.length none).take names.length)
    else none
  | _ => none

/-- The value of a field that may be absent. -/
def orDefault {α : Type} (read : Datum → Option α) (default : α) : Option Datum → Option α
  | none => some default
  | some d => read d

/-- The value of a field that may be absent and then has no value. -/
def optional? {α : Type} (read : Datum → Option α) : Option Datum → Option (Option α)
  | none | some .null => some none
  | some d => (read d).map some

/-- The name of one of several alternatives: the name itself, or a table of it and the unit. -/
def alternative? (dialect : Dialect) : Datum → Option String
  | .text s => some s
  | .table [(name, value)] => if dialect.isUnit value then some name else none
  | _ => none

/-- One of several alternatives, by its name. -/
def choice? {α : Type} (dialect : Dialect) (ofName : String → Option α) (d : Datum) : Option α :=
  (d.alternative? dialect).bind ofName

end FlowVerdict.Datum
