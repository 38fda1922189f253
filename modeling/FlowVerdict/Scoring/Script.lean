import FlowVerdict.Scoring.Scorer

/-!
A scripted source of evaluations: it answers from a list of replies, whatever it is asked, and
remembers the questions. The last reply answers every further question.
-/

namespace FlowVerdict

structure Script where
  shapes : List (String × ModelShape)
  replies : List Attempt

namespace Script

structure Question where
  model : String
  features : List Float32
deriving DecidableEq

/-- The reply to a question that came after so many others. -/
def reply (script : Script) (asked : Nat) : Attempt :=
  (script.replies[min asked (script.replies.length - 1)]?).getD .crashed

/-- The script as a source of evaluations. Its state is the list of questions so far. -/
def backend (script : Script) : Backend (List Question) where
  evaluate asked model features := (script.reply asked.length, asked ++ [⟨model, features⟩])
  shape name := script.shapes.lookup name

end Script

end FlowVerdict
