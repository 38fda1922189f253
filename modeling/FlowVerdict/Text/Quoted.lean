import FlowVerdict.Text.Numeral
import FlowVerdict.Text.Unprintable

/-!
Quoted text for messages: a text in double quotes or a character in single quotes, with everything
that would not show escaped.
-/

namespace FlowVerdict.Text.Quoted

/-- The escape of a code point: its hexadecimal number in braces. -/
def codePoint (c : Char) : List Char :=
  ['\\', 'u', '\x7b'] ++ Numeral.digits 16 c.toNat ++ ['\x7d']

/-- One character inside quotes. Only the quote that encloses the text needs an escape. -/
def escape (quote c : Char) : List Char :=
  match c with
  | '\x00' => ['\\', '0']
  | '\t' => ['\\', 't']
  | '\r' => ['\\', 'r']
  | '\n' => ['\\', 'n']
  | '\\' => ['\\', '\\']
  | c =>
    if c = quote then ['\\', quote]
    else if isExtending c || isUnprintable c then codePoint c
    else [c]

def enclose (quote : Char) (cs : List Char) : String :=
  String.ofList (quote :: cs.flatMap (escape quote) ++ [quote])

def text (s : String) : String := enclose '"' s.toList

def char (c : Char) : String := enclose '\x27' [c]

end FlowVerdict.Text.Quoted
