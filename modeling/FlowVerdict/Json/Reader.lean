import FlowVerdict.Json

/-!
Reading JSON documents. A document is one value with blanks around it, and nothing else.
-/

namespace FlowVerdict.Json.Reader

def skipBlanks (cs : List Char) : List Char :=
  cs.dropWhile fun c => c == ' ' || c == '\n' || c == '\t' || c == '\r'

/-- The value of four hexadecimal digits. -/
def unit? (a b c d : Char) : Option Nat :=
  [a, b, c, d].foldlM (fun n x => (Text.Numeral.digitValue? 16 x).map (n * 16 + ·)) 0

def isLeading (n : Nat) : Bool := 0xd800 ≤ n && n ≤ 0xdbff

def isTrailing (n : Nat) : Bool := 0xdc00 ≤ n && n ≤ 0xdfff

def paired (leading trailing : Nat) : Char :=
  Char.ofNat (0x10000 + (leading - 0xd800) * 0x400 + (trailing - 0xdc00))

/-- The character of an escape of one letter. -/
def escaped? : Char → Option Char
  | '"' => some '"'
  | '\\' => some '\\'
  | '/' => some '/'
  | 'b' => some '\x08'
  | 'f' => some '\x0c'
  | 'n' => some '\n'
  | 'r' => some '\r'
  | 't' => some '\t'
  | _ => none

/-- The rest of a string up to its closing quote, after the characters of `read`, the last one
first. `half` is the first half of a surrogate pair that has just been read. The string is no text
once a half has stayed without the other. -/
def string (read : List Char) (half : Option Nat) (isText : Bool) :
    List Char → Option (Option String × List Char)
  | [] => none
  | '"' :: rest =>
    some (if isText && half.isNone then some (String.ofList read.reverse) else none, rest)
  | '\\' :: 'u' :: a :: b :: c :: d :: rest =>
    match unit? a b c d, half with
    | none, _ => none
    | some n, some m =>
      if isTrailing n then string (paired m n :: read) none isText rest
      else string read none false rest
    | some n, none =>
      if isLeading n then string read (some n) isText rest
      else if isTrailing n then string read none false rest
      else string (Char.ofNat n :: read) none isText rest
  | '\\' :: c :: rest =>
    match escaped? c with
    | some x => string (x :: read) none (isText && half.isNone) rest
    | none => none
  | c :: rest =>
    if c.toNat < 0x20 then none else string (c :: read) none (isText && half.isNone) rest

def digits (cs : List Char) : List Nat × List Char :=
  ((cs.takeWhile Char.isDigit).map fun c => c.toNat - '0'.toNat, cs.dropWhile Char.isDigit)

/-- The exponent at the front, if there is one. A letter that opens one needs digits after it. -/
def exponent? (cs : List Char) : Option (Option (Bool × List Nat) × List Char) :=
  match cs with
  | c :: rest =>
    if c == 'e' || c == 'E' then
      let (negative, rest) := match rest with
        | '+' :: rest => (false, rest)
        | '-' :: rest => (true, rest)
        | rest => (false, rest)
      match digits rest with
      | ([], _) => none
      | (ds, rest) => some (some (negative, ds), rest)
    else some (none, cs)
  | [] => some (none, [])

/-- The number at the front. Only a single zero before the point may start with a zero. -/
def number? (cs : List Char) : Option (Number × List Char) := do
  let (negative, cs) := match cs with
    | '-' :: rest => (true, rest)
    | cs => (false, cs)
  let (whole, cs) := digits cs
  guard !(whole.isEmpty || whole.length > 1 && whole.head? == some 0)
  let (fraction, cs) ← match cs with
    | '.' :: rest =>
      match digits rest with
      | ([], _) => none
      | (ds, rest) => some (ds, rest)
    | cs => some ([], cs)
  let (exponent, cs) ← exponent? cs
  return (⟨negative, whole, fraction, exponent⟩, cs)

mutual

/-- The value at the front. Every step down takes one unit of fuel. -/
def value : Nat → List Char → Option (Json × List Char)
  | 0, _ => none
  | fuel + 1, cs =>
    match skipBlanks cs with
    | 'n' :: 'u' :: 'l' :: 'l' :: rest => some (.null, rest)
    | 't' :: 'r' :: 'u' :: 'e' :: rest => some (.boolean true, rest)
    | 'f' :: 'a' :: 'l' :: 's' :: 'e' :: rest => some (.boolean false, rest)
    | '"' :: rest => (string [] none true rest).map fun (s, rest) => (.string s, rest)
    | '[' :: rest =>
      match skipBlanks rest with
      | ']' :: rest => some (.array [], rest)
      | rest => (items fuel rest).map fun (xs, rest) => (.array xs, rest)
    | '\x7b' :: rest =>
      match skipBlanks rest with
      | '\x7d' :: rest => some (.object [], rest)
      | rest => (members fuel rest).map fun (ms, rest) => (.object ms, rest)
    | cs => (number? cs).map fun (n, rest) => (.number n, rest)

/-- The items of an array, at least one, up to its closing bracket. -/
def items : Nat → List Char → Option (List Json × List Char)
  | 0, _ => none
  | fuel + 1, cs => do
    let (x, rest) ← value fuel cs
    match skipBlanks rest with
    | ',' :: rest =>
      let (xs, rest) ← items fuel rest
      return (x :: xs, rest)
    | ']' :: rest => return ([x], rest)
    | _ => none

/-- The members of an object, at least one, up to its closing brace. -/
def members : Nat → List Char → Option (List (Option String × Json) × List Char)
  | 0, _ => none
  | fuel + 1, cs =>
    match skipBlanks cs with
    | '"' :: rest => do
      let (key, rest) ← string [] none true rest
      match skipBlanks rest with
      | ':' :: rest =>
        let (x, rest) ← value fuel rest
        match skipBlanks rest with
        | ',' :: rest =>
          let (ms, rest) ← members fuel rest
          return ((key, x) :: ms, rest)
        | '\x7d' :: rest => return ([(key, x)], rest)
        | _ => none
      | _ => none
    | _ => none

end

/-- The document that a text spells. A step down reads a character or opens a list of values, so
twice the length is fuel enough. -/
def document? (s : String) : Option Json :=
  let cs := s.toList
  match value (2 * cs.length + 2) cs with
  | some (j, rest) => if (skipBlanks rest).isEmpty then some j else none
  | none => none

end FlowVerdict.Json.Reader
