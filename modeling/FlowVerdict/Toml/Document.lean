import FlowVerdict.Datum.Record
import FlowVerdict.Toml.Scalar
import FlowVerdict.Toml.Tree

/-!
TOML documents: values with lists and tables in braces, the statements of a document, and the table
that a document spells.
-/

namespace FlowVerdict.Toml

/-- The text after a comment, up to the end of its line. A comment holds no control characters. -/
def skipComment : List Char → Option (List Char)
  | '#' :: rest =>
    let rest := rest.dropWhile isPlain
    if rest.isEmpty || (lineEnd? rest).isSome then some rest else none
  | cs => some cs

/-- The text after a line: blanks, a comment and the line end, or the end of the text. -/
def finishLine (cs : List Char) : Option (List Char) := do
  let rest ← skipComment (skipSpaces cs)
  if rest.isEmpty then return [] else lineEnd? rest

/-- The text after blanks, comments and line ends. -/
def skipLines : (fuel : Nat) → List Char → Option (List Char)
  | 0, _ => none
  | fuel + 1, cs => do
    let rest ← skipComment (skipSpaces cs)
    match lineEnd? rest with
    | some rest => skipLines fuel rest
    | none => return rest

/-- How deep lists and tables in braces may lie in each other, and how many parts a key may have. -/
def maxDepth : Nat := 79

mutual

def value : (fuel levels : Nat) → Reader Datum
  | 0, _, _ => none
  | fuel + 1, levels, cs =>
    match levels, cs with
    | 0, '[' :: _ => none
    | 0, '\x7b' :: _ => none
    | levels + 1, '[' :: rest => do
      let rest ← skipLines (rest.length + 1) rest
      match rest with
      | ']' :: rest => return (.list [], rest)
      | rest =>
        let (items, rest) ← items fuel levels rest
        return (.list items, rest)
    | levels + 1, '\x7b' :: rest =>
      match skipSpaces rest with
      | '\x7d' :: rest => some (.table [], rest)
      | rest => do
        let (members, rest) ← pairs fuel levels [] rest
        return (.table (memberData members), rest)
    | _, cs => scalar cs

/-- The items of a list, at least one, up to its closing bracket. A comma may follow the last. -/
def items : (fuel levels : Nat) → Reader (List Datum)
  | 0, _, _ => none
  | fuel + 1, levels, cs => do
    let (d, rest) ← value fuel levels cs
    let rest ← skipLines (rest.length + 1) rest
    match rest with
    | ']' :: rest => return ([d], rest)
    | ',' :: rest =>
      let rest ← skipLines (rest.length + 1) rest
      match rest with
      | ']' :: rest => return ([d], rest)
      | rest =>
        let (ds, rest) ← items fuel levels rest
        return (d :: ds, rest)
    | _ => none

/-- The pairs of a table in braces, at least one, up to its closing brace, added to members. -/
def pairs : (fuel levels : Nat) → Members → Reader Members
  | 0, _, _, _ => none
  | fuel + 1, levels, members, cs => do
    let (path, rest) ← key maxDepth cs
    match rest with
    | '=' :: rest =>
      let (d, rest) ← value fuel levels (skipSpaces rest)
      let members ← members.insert (path.getLastD "") d path.dropLast
      match skipSpaces rest with
      | '\x7d' :: rest => return (members, rest)
      | ',' :: rest => pairs fuel levels members rest
      | _ => none
    | _ => none

end

/-- A statement of a document. The path of a key or header is never empty. -/
inductive Statement where
  | pair (path : List String) (d : Datum)
  | table (path : List String)
  | element (path : List String)

/-- The statement at the front of a line. -/
def statement (cs : List Char) : Option (Statement × List Char) :=
  match cs with
  | '[' :: '[' :: rest => do
    let (path, rest) ← key maxDepth rest
    match rest with
    | ']' :: ']' :: rest => return (.element path, rest)
    | _ => none
  | '[' :: rest => do
    let (path, rest) ← key maxDepth rest
    match rest with
    | ']' :: rest => return (.table path, rest)
    | _ => none
  | cs => do
    let (path, rest) ← key maxDepth cs
    match rest with
    | '=' :: rest =>
      let rest := skipSpaces rest
      let (d, rest) ← value (2 * rest.length + 2) maxDepth rest
      return (.pair path d, rest)
    | _ => none

/-- A document as far as it has been read: all its tables, and the path of the table that pairs are
added to. -/
structure Draft where
  root : Members
  here : List String

def Draft.add (draft : Draft) : Statement → Option Draft
  | .pair path d =>
    (Members.changeAt (Members.insert (path.getLastD "") d path.dropLast) draft.here
      draft.root).map fun root => { draft with root }
  | .table path =>
    (Members.changeAt (Members.openTable (path.getLastD "")) path.dropLast draft.root).map
      fun root => ⟨root, path⟩
  | .element path =>
    (Members.changeAt (Members.openElement (path.getLastD "")) path.dropLast draft.root).map
      fun root => ⟨root, path⟩

def Draft.lines : (fuel : Nat) → Draft → List Char → Option Draft
  | 0, _, _ => none
  | fuel + 1, draft, cs => do
    let cs ← skipLines (cs.length + 1) cs
    if cs.isEmpty then return draft
    else
      let (s, rest) ← statement cs
      let draft ← draft.add s
      let rest ← finishLine rest
      draft.lines fuel rest

def document? (s : String) : Option Datum :=
  let cs := match s.toList with
    | '\ufeff' :: rest => rest
    | cs => cs
  ((Draft.mk [] []).lines (cs.length + 1) cs).map fun draft => .table (memberData draft.root)

/-- In TOML the unit is an empty table or list, and a list may hold more values than its record has
fields. -/
def dialect : Datum.Dialect where
  isUnit
    | .table [] | .list [] => true
    | _ => false
  ignoresTail := true

end FlowVerdict.Toml
