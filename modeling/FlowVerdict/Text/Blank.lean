/-!
White space around a text: the characters that count as blank, and the text without the blanks at
its two ends.
-/

namespace FlowVerdict.Text

/-- The white space characters: the ASCII ones from tab to carriage return, the space, and the
separators and spaces beyond ASCII. -/
def isBlank (c : Char) : Bool :=
  let n := c.toNat
  (0x09 ≤ n && n ≤ 0x0d) || n == 0x20 || n == 0x85 || n == 0xa0 || n == 0x1680 ||
    (0x2000 ≤ n && n ≤ 0x200a) || n == 0x2028 || n == 0x2029 || n == 0x202f || n == 0x205f ||
    n == 0x3000

def trimChars (cs : List Char) : List Char :=
  ((cs.dropWhile isBlank).reverse.dropWhile isBlank).reverse

def trim (s : String) : String := String.ofList (trimChars s.toList)

/-- The text with its ASCII letters in lower case and every other character as it is. -/
def lowerAscii (s : String) : String := String.ofList (s.toList.map Char.toLower)

end FlowVerdict.Text
