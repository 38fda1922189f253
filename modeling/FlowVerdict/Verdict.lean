import FlowVerdict.Text.Blank
import FlowVerdict.Text.Quoted

/-!
The verdict on a packet, and the words in which a host and a settings file spell it. A host says
nothing for a packet that may go through.
-/

namespace FlowVerdict

/-- What is to become of a packet. -/
inductive Verdict where
  /-- The packet goes through and its flow needs no more inspection. -/
  | pass
  /-- The packet is discarded and its flow stays under observation. -/
  | drop
  /-- The connection is torn down and its flow forgotten. -/
  | reset
deriving DecidableEq, Inhabited

namespace Verdict

/-- After a terminal verdict the flow needs no further decision. -/
def isTerminal : Verdict → Bool
  | .pass | .reset => true
  | .drop => false

def name : Verdict → String
  | .pass => "pass"
  | .drop => "drop"
  | .reset => "reset"

/-- The word that tells a host the verdict. A packet that may go through gets none. -/
def hostWord? : Verdict → Option String
  | .pass => none
  | .drop => some "drop"
  | .reset => some "reset"

/-- The verdict that a settings file spells: its exact name, or another word for letting pass. -/
def ofName? : String → Option Verdict
  | "pass" | "allow" | "none" => some .pass
  | "drop" => some .drop
  | "reset" => some .reset
  | _ => none

/-- A host's word that is no verdict. -/
structure UnknownWord where
  text : String
deriving DecidableEq

/-- The wording of the fault quotes the word as the host gave it. -/
def UnknownWord.message (w : UnknownWord) : String :=
  "unrecognized action: " ++ Text.Quoted.text w.text

/-- The verdict that a host spells, blanks around it and the case of its ASCII letters aside. The
empty word lets pass. -/
def ofHostWord (text : String) : Except UnknownWord Verdict :=
  match Text.lowerAscii (Text.trim text) with
  | "drop" => .ok .drop
  | "reset" => .ok .reset
  | "pass" | "allow" | "none" | "" => .ok .pass
  | _ => .error ⟨text⟩

/-- The verdict in a host's answer. No answer and an unknown word let pass. -/
def ofHostAnswer : Option String → Verdict
  | none => .pass
  | some text => (ofHostWord text).toOption.getD .pass

end Verdict

end FlowVerdict
