import FlowVerdict.Datum
import FlowVerdict.Decimal.Nearest
import FlowVerdict.Text.Numeral
import FlowVerdict.Toml.Moment

/-!
The scalar values of TOML and its keys: strings in their four forms, numbers, points in time and
truth values. Every reader takes what it reads off the front of the text and gives the rest.
-/

namespace FlowVerdict.Toml

abbrev Reader (α : Type) := List Char → Option (α × List Char)

def isSpace (c : Char) : Bool := c == ' ' || c == '\t'

def skipSpaces (cs : List Char) : List Char := cs.dropWhile isSpace

/-- The text after a line end, if it starts with one. -/
def lineEnd? : List Char → Option (List Char)
  | '\n' :: rest => some rest
  | '\r' :: '\n' :: rest => some rest
  | _ => none

/-- A character that may stand for itself in strings and comments: a tab and everything but control
characters. -/
def isPlain (c : Char) : Bool := c == '\t' || (0x20 ≤ c.toNat && c.toNat != 0x7f)

/-- The character of a code point, unless it is half of a surrogate pair or beyond the last one. -/
def scalarValue? (n : Nat) : Option Char :=
  if n < 0xd800 || (0xdfff < n && n < 0x110000) then some (Char.ofNat n) else none

/-- The value of hexadecimal digits, all of them. -/
def hexadecimal? (cs : List Char) : Option Nat :=
  cs.foldlM (fun n c => (Text.Numeral.digitValue? 16 c).map (n * 16 + ·)) 0

/-- The character that an escape stands for, after its backslash. -/
def escape : Reader Char
  | 'b' :: rest => some ('\x08', rest)
  | 't' :: rest => some ('\t', rest)
  | 'n' :: rest => some ('\n', rest)
  | 'f' :: rest => some ('\x0c', rest)
  | 'r' :: rest => some ('\r', rest)
  | '"' :: rest => some ('"', rest)
  | '\\' :: rest => some ('\\', rest)
  | 'u' :: a :: b :: c :: d :: rest => do
    let n ← hexadecimal? [a, b, c, d]
    let x ← scalarValue? n
    return (x, rest)
  | 'U' :: a :: b :: c :: d :: e :: f :: g :: h :: rest => do
    let n ← hexadecimal? [a, b, c, d, e, f, g, h]
    let x ← scalarValue? n
    return (x, rest)
  | _ => none

/-- The forms of a string: with escapes or without, on one line or on several. -/
structure StringForm where
  quote : Char
  escapes : Bool
  lines : Bool

def skipBlanks : List Char → List Char
  | '\r' :: '\n' :: rest => skipBlanks rest
  | c :: rest => if isSpace c || c == '\n' then skipBlanks rest else c :: rest
  | [] => []

/-- The text after the line end that a backslash at the end of a line hides, and after the blanks
and line ends that follow it. -/
def hiddenLineEnd? (cs : List Char) : Option (List Char) :=
  (lineEnd? (skipSpaces cs)).map skipBlanks

/-- The rest of a string up to its closing quotes, after the characters of `read`, the last one
first. In a string of several lines one or two quotes may stand anywhere, also right before the
closing three. -/
def StringForm.body (form : StringForm) : (fuel : Nat) → (read : List Char) → Reader String
  | 0, _, _ => none
  | fuel + 1, read, cs =>
    match cs with
    | [] => none
    | c :: rest =>
      if c = form.quote then
        if form.lines then
          let run := (cs.takeWhile (· == form.quote)).length
          if run < 3 then
            body form fuel (List.replicate run form.quote ++ read) (cs.drop run)
          else
            let inner := min (run - 3) 2
            some (String.ofList (List.replicate inner form.quote ++ read).reverse,
              cs.drop (inner + 3))
        else some (String.ofList read.reverse, rest)
      else if c = '\\' && form.escapes then
        match (if form.lines then hiddenLineEnd? rest else none) with
        | some rest => body form fuel read rest
        | none =>
          match escape rest with
          | some (x, rest) => body form fuel (x :: read) rest
          | none => none
      else
        match (if form.lines then lineEnd? cs else none) with
        | some rest => body form fuel ('\n' :: read) rest
        | none => if isPlain c then body form fuel (c :: read) rest else none

/-- A string on one line, its opening quote already read. -/
def lineString (quote : Char) (escapes : Bool) : Reader String := fun cs =>
  StringForm.body ⟨quote, escapes, false⟩ (cs.length + 1) [] cs

/-- A string on several lines, its three opening quotes already read. A line end right after them
does not count. -/
def linesString (quote : Char) (escapes : Bool) : Reader String := fun cs =>
  let cs := (lineEnd? cs).getD cs
  StringForm.body ⟨quote, escapes, true⟩ (cs.length + 1) [] cs

def isBare (c : Char) : Bool :=
  ('a' ≤ c && c ≤ 'z') || ('A' ≤ c && c ≤ 'Z') || ('0' ≤ c && c ≤ '9') || c == '_' || c == '-'

def simpleKey : Reader String
  | '"' :: rest => lineString '"' true rest
  | '\x27' :: rest => lineString '\x27' false rest
  | cs =>
    let name := cs.takeWhile isBare
    if name.isEmpty then none else some (String.ofList name, cs.dropWhile isBare)

/-- A key with dots: its parts, with blanks around each, as many as `parts` at most. -/
def key : (parts : Nat) → Reader (List String)
  | 0, _ => none
  | parts + 1, cs => do
    let (part, rest) ← simpleKey (skipSpaces cs)
    match skipSpaces rest with
    | '.' :: rest =>
      let (path, rest) ← key parts rest
      return (part :: path, rest)
    | rest => return ([part], rest)

/-- The digits that follow a digit. An underscore stands between two digits only. -/
def moreDigits (base : Nat) : Reader (List Char)
  | [] => some ([], [])
  | ['_'] => none
  | '_' :: d :: rest =>
    if Text.Numeral.isDigit base d then
      (moreDigits base rest).map fun (ds, rest) => (d :: ds, rest)
    else none
  | c :: rest =>
    if Text.Numeral.isDigit base c then
      (moreDigits base rest).map fun (ds, rest) => (c :: ds, rest)
    else some ([], c :: rest)

/-- Digits of a base, at least one. -/
def digitRun (base : Nat) : Reader (List Char)
  | c :: rest =>
    if Text.Numeral.isDigit base c then
      (moreDigits base rest).map fun (ds, rest) => (c :: ds, rest)
    else none
  | [] => none

/-- The digits before the point. A zero stands alone. -/
def wholeDigits : Reader (List Char)
  | '0' :: rest => some (['0'], rest)
  | cs => digitRun 10 cs

def sign : List Char → Bool × List Char
  | '-' :: rest => (true, rest)
  | '+' :: rest => (false, rest)
  | cs => (false, cs)

def fraction? : Reader (List Char)
  | '.' :: rest => digitRun 10 rest
  | cs => some ([], cs)

def exponent? : Reader (Option Int)
  | c :: rest =>
    if c == 'e' || c == 'E' then
      let (negative, rest) := sign rest
      (digitRun 10 rest).map fun (ds, rest) =>
        let n : Int := Text.Numeral.value 10 ds
        (some (if negative then -n else n), rest)
    else some (none, c :: rest)
  | [] => some (none, [])

/-- The integer, if it fits in 64 bits with a sign. -/
def integer? (n : Int) : Option Datum :=
  if Int64.minValue.toInt ≤ n && n ≤ Int64.maxValue.toInt then some (.integer n) else none

/-- An integer in a base other than ten, after the letter of the base. -/
def basedInteger (base : Nat) : Reader Datum := fun cs => do
  let (ds, rest) ← digitRun base cs
  let d ← integer? (Text.Numeral.value base ds)
  return (d, rest)

/-- A number: an integer in one of four bases, a real number, infinity or no number at all. A real
number that is written with digits is not above the greatest one. -/
def number : Reader Datum
  | '0' :: 'x' :: rest => basedInteger 16 rest
  | '0' :: 'o' :: rest => basedInteger 8 rest
  | '0' :: 'b' :: rest => basedInteger 2 rest
  | cs =>
    let (negative, cs) := sign cs
    let signed (x : Float) : Float := if negative then -x else x
    match cs with
    | 'i' :: 'n' :: 'f' :: rest => some (.real (signed (1 / 0)), rest)
    | 'n' :: 'a' :: 'n' :: rest => some (.real (0 / 0), rest)
    | cs => do
      let (whole, cs) ← wholeDigits cs
      let (fraction, cs) ← fraction? cs
      let (exponent, cs) ← exponent? cs
      if fraction.isEmpty && exponent.isNone then
        let n : Int := Text.Numeral.value 10 whole
        let d ← integer? (if negative then -n else n)
        return (d, cs)
      else
        let m := Text.Numeral.value 10 (whole ++ fraction)
        let x := signed (Decimal.nearest m (exponent.getD 0 - fraction.length))
        if x == 1 / 0 then none else return (.real x, cs)

def scalar : Reader Datum
  | '"' :: '"' :: '"' :: rest => (linesString '"' true rest).map fun (s, r) => (.text s, r)
  | '"' :: rest => (lineString '"' true rest).map fun (s, r) => (.text s, r)
  | '\x27' :: '\x27' :: '\x27' :: rest =>
    (linesString '\x27' false rest).map fun (s, r) => (.text s, r)
  | '\x27' :: rest => (lineString '\x27' false rest).map fun (s, r) => (.text s, r)
  | 't' :: 'r' :: 'u' :: 'e' :: rest => some (.boolean true, rest)
  | 'f' :: 'a' :: 'l' :: 's' :: 'e' :: rest => some (.boolean false, rest)
  | cs => (Moment.read cs).or (number cs)

end FlowVerdict.Toml
