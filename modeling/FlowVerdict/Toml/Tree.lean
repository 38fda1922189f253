import FlowVerdict.Datum

/-!
Tables under construction. The statements of a TOML document add to tables that earlier statements
may have opened, and how a table came to be decides which statements may still add to it.
-/

namespace FlowVerdict.Toml

/-- How a table came to be. -/
inductive Origin where
  /-- A header names the table. -/
  | header
  /-- A header names a table inside it. -/
  | implied
  /-- A dotted key leads into it. -/
  | dotted
deriving DecidableEq

/-- A value in a table under construction. -/
inductive Node where
  /-- A value that nothing can be added to, a table in braces among them. -/
  | value (d : Datum)
  | table (origin : Origin) (members : List (String × Node))
  /-- A list of tables, of which only the last can still grow. -/
  | tables (finished : List Datum) (last : List (String × Node))
deriving Inhabited

abbrev Members := List (String × Node)

mutual

def Node.datum : Node → Datum
  | .value d => d
  | .table _ members => .table (memberData members)
  | .tables finished last => .list (finished ++ [.table (memberData last)])

def memberData : List (String × Node) → List (String × Datum)
  | [] => []
  | (key, node) :: rest => (key, node.datum) :: memberData rest

end

namespace Members

/-- The members with a key's value replaced, or added at the end. -/
def set (ms : Members) (key : String) (node : Node) : Members :=
  if ms.any (·.1 == key) then ms.map fun m => if m.1 == key then (key, node) else m
  else ms ++ [(key, node)]

/-- The change of the table that a header's path leads to. Tables on the way come to be, and a list
of tables is entered at its last one. -/
def changeAt (change : Members → Option Members) : List String → Members → Option Members
  | [], ms => change ms
  | key :: path, ms =>
    match ms.lookup key with
    | none => (changeAt change path []).map fun inner => ms.set key (.table .implied inner)
    | some (.value _) => none
    | some (.table origin inner) =>
      (changeAt change path inner).map fun inner => ms.set key (.table origin inner)
    | some (.tables finished last) =>
      (changeAt change path last).map fun last => ms.set key (.tables finished last)

/-- The table with a value under a dotted key. A dotted key adds to no table that a header names,
and its last table has to come from dotted keys too. No key is given twice. -/
def insert (key : String) (d : Datum) : List String → Members → Option Members
  | [], ms => if (ms.lookup key).isSome then none else some (ms.set key (.value d))
  | part :: path, ms =>
    match ms.lookup part with
    | none => (insert key d path []).map fun inner => ms.set part (.table .dotted inner)
    | some (.value _) => none
    | some (.table origin inner) =>
      if origin = .header || (path.isEmpty && origin != .dotted) then none
      else (insert key d path inner).map fun inner => ms.set part (.table origin inner)
    | some (.tables finished last) =>
      if path.isEmpty then none
      else (insert key d path last).map fun last => ms.set part (.tables finished last)

/-- The members with a table opened by a header. A table is opened once, and not after dotted
keys. -/
def openTable (key : String) (ms : Members) : Option Members :=
  match ms.lookup key with
  | none => some (ms.set key (.table .header []))
  | some (.table .implied inner) => some (ms.set key (.table .header inner))
  | some _ => none

def openElement (key : String) (ms : Members) : Option Members :=
  match ms.lookup key with
  | none => some (ms.set key (.tables [] []))
  | some (.tables finished last) =>
    some (ms.set key (.tables (finished ++ [.table (memberData last)]) []))
  | some _ => none

end Members

end FlowVerdict.Toml
