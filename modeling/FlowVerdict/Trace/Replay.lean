import FlowVerdict.Files.Error
import FlowVerdict.Json.Writer
import FlowVerdict.Monitor.Run
import FlowVerdict.Text.Split
import FlowVerdict.Trace.Record

/-!
A trace replayed through a monitor, one line after the other. Empty lines and lines that start with
a number sign are skipped. A replay takes no time, so that no flow goes idle in it, and it stops at
the first line that says nothing. Every packet is written to a log with its verdict.
-/

namespace FlowVerdict

/-- A replay as far as it has come. -/
structure Replay (σ : Type) where
  state : Monitor.State σ
  /-- The records read. -/
  records : Nat
  /-- The entries of the log, the last one first. -/
  log : List String

/-- Why a replay stops. -/
inductive ReplayFault where
  /-- A line is no text. -/
  | notText
  /-- The record in a line, counted from one, says nothing. -/
  | record (line : Nat) (fault : TraceFault)

namespace Replay

variable {σ : Type}

def entry (line : Nat) (p : Packet) (verdict : Verdict) : String :=
  Json.Writer.compact (.table [
    ("line", .integer line),
    ("flow", .text p.flow.text),
    ("src", .text p.source.text),
    ("dst", .text p.target.text),
    ("len", .integer p.payload.length),
    ("action", .text verdict.name)]) ++ "\n"

/-- The line says nothing and is not meant to. -/
def isSkipped (line : String) : Bool := line.isEmpty || line.toList.head? == some '#'

/-- The replay after what a record says. -/
def event (monitor : Monitor σ) (replay : Replay σ) (line : Nat) : TraceEvent → Replay σ
  | .packet p =>
    let (verdict, state) := monitor.process replay.state p 0
    { replay with state, log := entry line p verdict :: replay.log }
  | .close flow => { replay with state := (monitor.close replay.state flow).2 }

/-- The replay after one more line, or the fault that stops it. -/
def line (monitor : Monitor σ) (replay : Replay σ) (number : Nat) (bytes : List UInt8) :
    Except ReplayFault (Replay σ) :=
  match FileError.textOf? bytes with
  | .error _ => .error .notText
  | .ok text =>
    let text := Text.trim text
    if isSkipped text then .ok replay
    else
      match TraceRecord.ofLine text >>= TraceRecord.event with
      | .error fault => .error (.record number fault)
      | .ok e => .ok { replay.event monitor number e with records := replay.records + 1 }

def lines (monitor : Monitor σ) (replay : Replay σ) (number : Nat) :
    List (List UInt8) → Replay σ × Option ReplayFault
  | [] => (replay, none)
  | bytes :: rest =>
    match replay.line monitor number bytes with
    | .ok replay => lines monitor replay (number + 1) rest
    | .error fault => (replay, some fault)

def trace (monitor : Monitor σ) (state : Monitor.State σ) (bytes : List UInt8) :
    Replay σ × Option ReplayFault :=
  lines monitor ⟨state, 0, []⟩ 1 (Text.lines 10 bytes)

def logText (replay : Replay σ) : String := String.join replay.log.reverse

end Replay

end FlowVerdict
