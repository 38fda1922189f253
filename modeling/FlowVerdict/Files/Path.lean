import FlowVerdict.Text.Split

/-!
Paths of files as text. A path that does not start with a slash is relative to a directory.
-/

namespace FlowVerdict.Path

def isAbsolute (path : String) : Bool := path.toList.head? == some '/'

/-- The path as seen from the directory in which `base` stands. An absolute path stays as it is. -/
def join (base path : String) : String :=
  if isAbsolute path then path
  else if base.isEmpty || base.toList.getLast? == some '/' then base ++ path
  else base ++ "/" ++ path

/-- A part of a path that leads nowhere: nothing between two slashes, or a single dot. -/
def isIdle (part : List Char) : Bool := part.isEmpty || part == ['.']

/-- The parts without those at the end that lead nowhere. -/
def dropIdle (parts : List (List Char)) : List (List Char) :=
  (parts.reverse.dropWhile isIdle).reverse

/-- The start of a path, the root or a dot for the current directory, and the parts after it. -/
def parts (path : String) : List Char × List (List Char) :=
  match path.toList with
  | '/' :: rest => (['/'], Text.split '/' rest)
  | ['.'] => (['.'], [])
  | '.' :: '/' :: rest => (['.'], [] :: Text.split '/' rest)
  | cs => ([], Text.split '/' cs)

/-- The directory in which a path stands. The root and the empty path stand in none. -/
def parent? (path : String) : Option String :=
  let (start, parts) := parts path
  match dropIdle parts with
  | [] => if start == ['.'] then some "" else none
  | parts =>
    some (String.ofList (start ++ Text.join '/' (dropIdle parts.dropLast)))

end FlowVerdict.Path
