/-!
Lists cut at a separator, such as the lines of a file and the parts of a path.
-/

namespace FlowVerdict.Text

variable {α : Type}

/-- The pieces of a list with one more item at its front. -/
def extendPieces [DecidableEq α] (separator x : α) (pieces : List (List α)) : List (List α) :=
  if x = separator then [] :: pieces
  else match pieces with
    | [] => [[x]]
    | piece :: rest => (x :: piece) :: rest

/-- The pieces of a list between its separators, one more than there are separators. -/
def split [DecidableEq α] (separator : α) (xs : List α) : List (List α) :=
  xs.foldr (extendPieces separator) [[]]

def join (separator : α) : List (List α) → List α
  | [] => []
  | [piece] => piece
  | piece :: rest => piece ++ separator :: join separator rest

/-- The lines of a file. A separator at the very end opens no further line. -/
def lines [DecidableEq α] (separator : α) (xs : List α) : List (List α) :=
  let pieces := split separator xs
  if pieces.getLast? = some [] then pieces.dropLast else pieces

end FlowVerdict.Text
