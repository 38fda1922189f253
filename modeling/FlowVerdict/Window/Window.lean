import FlowVerdict.Window.Feature

/-!
The window of a flow: one row of feature values for each of its first packets, flattened to the
vector that a model is asked about. A window is full from its last row on, and the push of that row
is the only one that says so.
-/

namespace FlowVerdict

inductive Layout where
  /-- All values of the first feature, then all of the second, and so on. -/
  | concatenated
  /-- One row after the other. -/
  | interleaved
deriving DecidableEq, Inhabited

namespace Layout

def name : Layout → String
  | .concatenated => "concatenated"
  | .interleaved => "interleaved"

def ofName? : String → Option Layout
  | "concatenated" => some .concatenated
  | "interleaved" => some .interleaved
  | _ => none

end Layout

structure Window where
  rows : Array (List Float32)
deriving DecidableEq

namespace Window

def empty : Window := ⟨#[]⟩

def length (w : Window) : Nat := w.rows.size

def isEmpty (w : Window) : Bool := w.length == 0

/-- The values of all rows, one row after the other. -/
def values (w : Window) : List Float32 := w.rows.toList.flatten

end Window

/-- The shape of a model's windows: the number of rows, the features of a row, the order in which a
window is flattened, and the value of what no packet filled. -/
structure WindowShape where
  size : Nat
  features : List Feature
  layout : Layout
  padding : Float32

namespace WindowShape

def width (shape : WindowShape) : Nat := shape.features.length

/-- The number of values in a flattened window, if a machine word can hold it. -/
def inputLength? (shape : WindowShape) : Option Nat :=
  let length := shape.size * shape.width
  if length < UInt64.size then some length else none

/-- A row cut or padded to the width. -/
def fit (shape : WindowShape) (row : List Float32) : List Float32 :=
  (row ++ List.replicate shape.width shape.padding).take shape.width

def row (shape : WindowShape) (p : Packet) (d : Direction) : List Float32 :=
  shape.features.map (·.value p d)

/-- The window with one more row, and whether the row fills it. A full window takes no more rows. -/
def append (shape : WindowShape) (w : Window) (row : List Float32) : Bool × Window :=
  if shape.size ≤ w.length then (false, w)
  else (w.length + 1 == shape.size, ⟨w.rows.push row⟩)

/-- The window with one more row of any length. -/
def push (shape : WindowShape) (w : Window) (row : List Float32) : Bool × Window :=
  shape.append w (shape.fit row)

def pushPacket (shape : WindowShape) (w : Window) (p : Packet) (d : Direction) : Bool × Window :=
  shape.append w (shape.row p d)

/-- The value in a row and column, the padding where there is none. -/
def cell (shape : WindowShape) (w : Window) (row column : Nat) : Float32 :=
  match w.rows[row]? with
  | some values => values[column]?.getD shape.padding
  | none => shape.padding

/-- The values of a window in the order of the layout, missing rows padded. -/
def flatten (shape : WindowShape) (w : Window) : List Float32 :=
  match shape.layout with
  | .concatenated =>
    (List.range shape.width).flatMap fun column =>
      (List.range shape.size).map fun row => shape.cell w row column
  | .interleaved =>
    (List.range shape.size).flatMap fun row =>
      (List.range shape.width).map fun column => shape.cell w row column

end WindowShape

end FlowVerdict
