import FlowVerdict.Files.Error
import FlowVerdict.Text.Split

/-!
A directory of files as data, inside a file system of which little more is known. A directory
exists as long as a file stands below it. Paths lead through directories only, a dot stays and two
dots step back. Besides, the root holds the directories that every system has and the null device,
which is always empty.
-/

namespace FlowVerdict

/-- Where names lead from: the root, or the directory so many steps above the directory of files. -/
inductive Origin where
  | root
  | above (steps : Nat)
deriving DecidableEq

/-- Where a path leads: the names on the way from its origin. -/
structure Place where
  origin : Origin
  names : List (List Char)
deriving DecidableEq

namespace Place

/-- The directory around a place. The root lies in itself. -/
def parent : Place → Place
  | ⟨.above n, []⟩ => ⟨.above (n + 1), []⟩
  | ⟨origin, names⟩ => ⟨origin, names.dropLast⟩

/-- Where one part of a path leads from a directory. -/
def next (place : Place) : List Char → Place
  | [] | ['.'] => place
  | ['.', '.'] => place.parent
  | name => { place with names := place.names ++ [name] }

/-- The device that holds nothing and takes everything. -/
def nullDevice : Place := ⟨.root, ["dev".toList, "null".toList]⟩

/-- The directories in the root of every system. -/
def standardDirectories : List Place :=
  ["bin", "boot", "dev", "etc", "home", "lib", "media", "mnt", "opt", "proc", "root", "run",
    "sbin", "srv", "sys", "tmp", "usr", "var"].map fun name => ⟨.root, [name.toList]⟩

end Place

/-- Files by their places. -/
structure Directory where
  files : List (Place × List UInt8)

namespace Directory

def file? (d : Directory) (place : Place) : Option (List UInt8) :=
  if place = .nullDevice then some [] else d.files.lookup place

def isDirectory (d : Directory) (place : Place) : Bool :=
  place.names.isEmpty || Place.standardDirectories.contains place ||
    d.files.any fun (file, _) =>
      file.origin == place.origin && place.names.isPrefixOf file.names && file != place

/-- The part of a path is a name that has to be looked up. -/
def isName (part : List Char) : Bool := !(part.isEmpty || part == ['.'] || part == ['.', '.'])

def maxName : Nat := 255

def maxPath : Nat := 4095

/-- Where one part of a path leads from a directory, which may be a place with nothing in it. A name
is looked up only if it is not too long. -/
def step (place : Place) (part : List Char) : Except FileError Place :=
  if isName part && maxName < (String.ofList part).utf8ByteSize then .error .tooLong
  else .ok (place.next part)

/-- The directory to which the parts of a path lead from a directory. -/
def enter (d : Directory) (place : Place) : List (List Char) → Except FileError Place
  | [] => .ok place
  | part :: rest => do
    let place ← step place part
    if d.isDirectory place then d.enter place rest
    else if (d.file? place).isSome then throw .notDirectory
    else throw .missing

def origin (path : String) : Place :=
  if path.toList.head? = some '/' then ⟨.root, []⟩ else ⟨.above 0, []⟩

/-- The parts of a path that can be followed at all. -/
def parts (path : String) : Except FileError (List (List Char)) :=
  let cs := path.toList
  if cs.contains '\x00' then .error .zeroInPath
  else if cs.isEmpty then .error .missing
  else if maxPath < path.utf8ByteSize then .error .tooLong
  else .ok (Text.split '/' cs)

/-- Where a path leads. The last part may name nothing. -/
def resolve (d : Directory) (path : String) : Except FileError Place := do
  let parts ← parts path
  let place ← d.enter (origin path) parts.dropLast
  step place (parts.getLastD [])

def read (d : Directory) (path : String) : Except FileError (List UInt8) := do
  let place ← d.resolve path
  if d.isDirectory place then throw .isDirectory
  match d.file? place with
  | some bytes => return bytes
  | none => throw .missing

/-- A path that can be opened leads to a directory or a file. -/
def probe (d : Directory) (path : String) : Except FileError Unit := do
  let place ← d.resolve path
  if d.isDirectory place || (d.file? place).isSome then return else throw .missing

/-- The directory with bytes in the file under a path. A path that ends in a slash names no file. -/
def write (d : Directory) (path : String) (bytes : List UInt8) : Except FileError Directory := do
  let parts ← parts path
  let named := (parts.reverse.dropWhile List.isEmpty).reverse
  let name := named.getLastD []
  let place ← d.enter (origin path) named.dropLast
  if named.length < parts.length || !isName name then throw .isDirectory
  let place ← step place name
  if d.isDirectory place then throw .isDirectory
  if place = .nullDevice then return d
  return ⟨(place, bytes) :: d.files.filter (·.1 != place)⟩

/-- The directory with files under the given paths. -/
def ofFiles (files : List (String × List UInt8)) : Directory :=
  ⟨files.map fun (path, bytes) =>
    (⟨.above 0, (Text.split '/' path.toList).filter isName⟩, bytes)⟩

end Directory

end FlowVerdict
