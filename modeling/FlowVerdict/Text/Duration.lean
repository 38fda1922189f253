import FlowVerdict.Text.Numeral

/-!
The text of a duration given in milliseconds: in the largest unit that leaves a whole part, with as
many decimals as it needs.
-/

namespace FlowVerdict.Text

/-- The decimals of so many thousandths, without the zeros at the end. -/
def thousandths (n : Nat) : List Char :=
  let three := [Nat.digitChar (n / 100 % 10), Nat.digitChar (n / 10 % 10), Nat.digitChar (n % 10)]
  (three.reverse.dropWhile (· == '0')).reverse

/-- A duration in seconds from one second on, below that in milliseconds; nothing at all is counted
in nanoseconds. -/
def duration (ms : Nat) : String :=
  if ms = 0 then "0ns"
  else if ms < 1000 then toString ms ++ "ms"
  else if ms % 1000 = 0 then toString (ms / 1000) ++ "s"
  else toString (ms / 1000) ++ "." ++ String.ofList (thousandths (ms % 1000)) ++ "s"

end FlowVerdict.Text
