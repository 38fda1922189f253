import FlowVerdict.Proofs.Window.Flatten
import Mathlib.Algebra.BigOperators.Group.List.Basic
import Mathlib.Data.List.Induction

/-!
Windows in use. Rows are offered to a window until it is full, and from time to time it is emptied.

Whatever is done to it, a window holds the first rows offered since it was last empty, each cut or
padded to the width. So it is made of whole rows, every value that flattening reads is there, and a
flattened window is a grid of the values that were offered, read by columns or by rows.
-/

namespace FlowVerdict

inductive Window.Operation where
  /-- A row of any length is offered. -/
  | push (row : List Float32)
  /-- The row of a packet is offered. -/
  | pushPacket (p : Packet) (d : Direction)
  /-- The rows go, and the room that they took is kept. -/
  | clear
  /-- The rows go, and the room that they took with them. -/
  | release

namespace WindowShape

variable {shape : WindowShape} {w : Window} {row : List Float32}

/-- One operation: whether a row that is offered fills the window, and the window after it. -/
def apply (shape : WindowShape) (w : Window) : Window.Operation → Option Bool × Window
  | .push row => (some (shape.push w row).1, (shape.push w row).2)
  | .pushPacket p d => (some (shape.pushPacket w p d).1, (shape.pushPacket w p d).2)
  | .clear | .release => (none, .empty)

def after (shape : WindowShape) (operations : List Window.Operation) : Window :=
  operations.foldl (fun w operation => (shape.apply w operation).2) .empty

/-- The rows offered since the window was last empty, after one more operation. -/
def offer (shape : WindowShape) (rows : List (List Float32)) :
    Window.Operation → List (List Float32)
  | .push row => rows ++ [row]
  | .pushPacket p d => rows ++ [shape.row p d]
  | .clear | .release => []

/-- The rows accepted since the window was last empty: of those offered as many as there is room
for. -/
def accepted (shape : WindowShape) (operations : List Window.Operation) : List (List Float32) :=
  (operations.foldl shape.offer []).take shape.size

/-! ### Rows -/

lemma getElem?_fit (shape : WindowShape) (row : List Float32) {column : Nat}
    (h : column < shape.width) :
    (shape.fit row)[column]? = some (row[column]?.getD shape.padding) := by
  rw [fit, List.getElem?_take_of_lt h]
  rcases Nat.lt_or_ge column row.length with hin | hout
  · rw [List.getElem?_append_left hin, List.getElem?_eq_getElem hin]
    rfl
  · have hpad : column - row.length < shape.width := by omega
    rw [List.getElem?_append_right hout, List.getElem?_eq_none hout]
    simp [hpad]

lemma length_fit (shape : WindowShape) (row : List Float32) :
    (shape.fit row).length = shape.width := by
  simp [fit]

lemma length_row (shape : WindowShape) (p : Packet) (d : Direction) :
    (shape.row p d).length = shape.width :=
  List.length_map _

lemma fit_row (shape : WindowShape) (p : Packet) (d : Direction) :
    shape.fit (shape.row p d) = shape.row p d := by
  rw [fit, ← shape.length_row p d, List.take_left]

theorem pushPacket_eq_push (shape : WindowShape) (w : Window) (p : Packet) (d : Direction) :
    shape.pushPacket w p d = shape.push w (shape.row p d) := by
  rw [pushPacket, push, fit_row]

lemma append_of_full (h : shape.size ≤ w.length) (row : List Float32) :
    shape.append w row = (false, w) := if_pos h

lemma append_of_room (h : w.length < shape.size) (row : List Float32) :
    shape.append w row = (w.length + 1 == shape.size, ⟨w.rows.push row⟩) :=
  if_neg (Nat.not_le.mpr h)

lemma append_fst_iff (shape : WindowShape) (w : Window) (row : List Float32) :
    (shape.append w row).1 = true ↔ w.length + 1 = shape.size := by
  rcases Nat.lt_or_ge w.length shape.size with hroom | hfull
  · rw [append_of_room hroom, beq_iff_eq]
  · rw [append_of_full hfull]
    exact iff_of_false Bool.false_ne_true (by omega)

/-! ### Whole rows -/

/-- The window has no more rows than its shape provides for, and each has one value for each
feature. -/
structure Fits (shape : WindowShape) (w : Window) : Prop where
  length_le : w.length ≤ shape.size
  width_eq : ∀ row ∈ w.rows.toList, row.length = shape.width

namespace Fits

lemma empty (shape : WindowShape) : shape.Fits .empty :=
  ⟨Nat.zero_le _, by simp [Window.empty]⟩

lemma append (h : shape.Fits w) (hrow : row.length = shape.width) :
    shape.Fits (shape.append w row).2 := by
  rcases Nat.lt_or_ge w.length shape.size with hroom | hfull
  · rw [append_of_room hroom]
    refine ⟨?_, ?_⟩
    · rw [Window.length, Array.size_push]
      exact hroom
    · simp only [Array.toList_push]
      exact List.forall_mem_append.mpr ⟨h.width_eq, List.forall_mem_singleton.mpr hrow⟩
  · rw [append_of_full hfull]
    exact h

lemma push (h : shape.Fits w) (row : List Float32) : shape.Fits (shape.push w row).2 :=
  h.append (shape.length_fit row)

lemma pushPacket (h : shape.Fits w) (p : Packet) (d : Direction) :
    shape.Fits (shape.pushPacket w p d).2 :=
  h.append (shape.length_row p d)

lemma length_values (h : shape.Fits w) : w.values.length = w.length * shape.width := by
  have hsum := List.sum_eq_card_nsmul (w.rows.toList.map List.length) shape.width (by
    simpa using h.width_eq)
  simpa [Window.values, Window.length, List.length_flatten] using hsum

end Fits

/-- The window can be read where it is flattened: the cell in a row that was filled is the value at
its place among the values of all rows. -/
def InPlace (shape : WindowShape) (w : Window) : Prop :=
  ∀ row column, row < w.length → column < shape.width →
    w.values[row * shape.width + column]? = some (shape.cell w row column)

lemma getElem?_flatten_of_length {rows : List (List Float32)} {n : Nat}
    (h : ∀ row ∈ rows, row.length = n) {i j : Nat} (hi : i < rows.length) (hj : j < n) :
    rows.flatten[i * n + j]? = rows[i][j]? := by
  induction rows generalizing i with
  | nil => cases hi
  | cons row rest ih =>
    have hrow : row.length = n := h row List.mem_cons_self
    cases i with
    | zero =>
      have hfirst : j < row.length := by omega
      simp [List.getElem?_append_left hfirst]
    | succ i =>
      have hplace : (i + 1) * n + j = row.length + (i * n + j) := by
        rw [hrow, Nat.add_one_mul]
        omega
      rw [hplace, List.flatten_cons, List.getElem?_append_right (Nat.le_add_right _ _),
        Nat.add_sub_cancel_left]
      exact ih (fun row hmem => h row (List.mem_cons_of_mem _ hmem)) (Nat.lt_of_succ_lt_succ hi)

lemma Fits.inPlace (h : shape.Fits w) : shape.InPlace w := by
  intro row column hrow hcolumn
  have hsize : row < w.rows.size := hrow
  have hlist : row < w.rows.toList.length := hrow
  have hwidth : column < w.rows[row].length := by
    rw [h.width_eq _ (Array.mem_toList_iff.mpr (Array.getElem_mem hsize))]
    exact hcolumn
  calc w.values[row * shape.width + column]?
      = w.rows.toList[row][column]? := getElem?_flatten_of_length h.width_eq hlist hcolumn
    _ = some w.rows[row][column] := by simp [hwidth]
    _ = some (shape.cell w row column) := by simp [cell, hsize, hwidth]

/-! ### Grids -/

/-- The place of a cell in the flattened window. -/
def place (shape : WindowShape) (row column : Nat) : Nat :=
  match shape.layout with
  | .concatenated => column * shape.size + row
  | .interleaved => row * shape.width + column

/-- A grid read row by row. -/
lemma getElem?_flatMap_range (f : Nat → Nat → Float32) {m n i j : Nat} (hi : i < m) (hj : j < n) :
    ((List.range m).flatMap fun i => (List.range n).map (f i))[i * n + j]? = some (f i j) := by
  have hlength : ∀ row ∈ (List.range m).map fun i => (List.range n).map (f i), row.length = n :=
    List.forall_mem_map.mpr fun i _ => by rw [List.length_map, List.length_range]
  rw [List.flatMap_def, getElem?_flatten_of_length hlength (by simpa using hi) hj]
  simp [hj]

theorem getElem?_flatten (shape : WindowShape) (w : Window) {row column : Nat}
    (hrow : row < shape.size) (hcolumn : column < shape.width) :
    (shape.flatten w)[shape.place row column]? = some (shape.cell w row column) := by
  unfold flatten place
  cases shape.layout with
  | concatenated =>
    exact getElem?_flatMap_range (fun column row => shape.cell w row column) hcolumn hrow
  | interleaved => exact getElem?_flatMap_range (shape.cell w) hrow hcolumn

/-! ### What was accepted -/

/-- The value that a cell gets from the rows accepted: rows and values that are missing leave the
padding. -/
def entry (shape : WindowShape) (rows : List (List Float32)) (row column : Nat) : Float32 :=
  (rows[row]?.bind (·[column]?)).getD shape.padding

/-- The window holds the rows, each fitted to the width. -/
def Keeps (shape : WindowShape) (rows : List (List Float32)) (w : Window) : Prop :=
  w.rows.toList = rows.map shape.fit

namespace Keeps

variable {rows : List (List Float32)}

lemma length_eq (h : shape.Keeps rows w) : w.length = rows.length := by
  have hlength := congrArg List.length h
  simpa [Window.length] using hlength

lemma cell_eq (h : shape.Keeps rows w) (row : Nat) {column : Nat} (hcolumn : column < shape.width) :
    shape.cell w row column = shape.entry rows row column := by
  have hrow : w.rows[row]? = rows[row]?.map shape.fit := by
    rw [← Array.getElem?_toList, h, List.getElem?_map]
  unfold cell entry
  rw [hrow]
  cases rows[row]? with
  | none => rfl
  | some values => simp [getElem?_fit shape values hcolumn]

lemma push (h : shape.Keeps (rows.take shape.size) w) (row : List Float32) :
    shape.Keeps ((rows ++ [row]).take shape.size) (shape.push w row).2 := by
  have hlength := h.length_eq
  rw [List.length_take] at hlength
  rcases Nat.lt_or_ge rows.length shape.size with hroom | hfull
  · have hall : (rows ++ [row]).take shape.size = rows ++ [row] := by
      refine List.take_of_length_le ?_
      rw [List.length_append, List.length_singleton]
      exact hroom
    rw [List.take_of_length_le (Nat.le_of_lt hroom)] at h
    rw [WindowShape.push, append_of_room (by omega), hall, Keeps, List.map_append, ← h]
    exact Array.toList_push
  · rw [WindowShape.push, append_of_full (by omega), List.take_append_of_le_length hfull]
    exact h

end Keeps

lemma Keeps.apply {rows : List (List Float32)} (h : shape.Keeps (rows.take shape.size) w)
    (operation : Window.Operation) :
    shape.Keeps ((shape.offer rows operation).take shape.size) (shape.apply w operation).2 := by
  have hempty : shape.Keeps (([] : List (List Float32)).take shape.size) .empty := by
    rw [List.take_nil]
    rfl
  cases operation with
  | push row => exact h.push row
  | pushPacket p d =>
    simp only [WindowShape.apply, pushPacket_eq_push]
    exact h.push _
  | clear => exact hempty
  | release => exact hempty

lemma Fits.apply (h : shape.Fits w) (operation : Window.Operation) :
    shape.Fits (shape.apply w operation).2 := by
  cases operation with
  | push row => exact h.push row
  | pushPacket p d => exact h.pushPacket p d
  | clear => exact .empty shape
  | release => exact .empty shape

lemma after_snoc (shape : WindowShape) (operations : List Window.Operation)
    (operation : Window.Operation) : shape.after (operations ++ [operation]) =
      (shape.apply (shape.after operations) operation).2 := by
  rw [after, List.foldl_append]
  rfl

/-- **A window keeps what it accepted**, whatever was done to it. -/
theorem keeps_accepted (shape : WindowShape) (operations : List Window.Operation) :
    shape.Keeps (shape.accepted operations) (shape.after operations) := by
  -- Over the operations, the last one split off: only the first rows matter, so an operation finds
  -- `take` of what was offered and leaves `take` of what is offered then.
  induction operations using List.reverseRecOn with
  | nil =>
    rw [accepted, List.foldl_nil, List.take_nil]
    rfl
  | append_singleton operations operation ih =>
    rw [accepted, List.foldl_append, after_snoc]
    exact ih.apply operation

theorem fits_after (shape : WindowShape) (operations : List Window.Operation) :
    shape.Fits (shape.after operations) := by
  induction operations using List.reverseRecOn with
  | nil => exact .empty shape
  | append_singleton operations operation ih =>
    rw [after_snoc]
    exact ih.apply operation

/-- A window into which the rows were accepted: how many they are, what it says to further rows, and
what it flattens to. -/
structure Accumulates (shape : WindowShape) (rows : List (List Float32)) (w : Window) : Prop where
  length_eq : w.length = rows.length
  length_le : w.length ≤ shape.size
  length_values : w.values.length = w.length * shape.width
  /-- The row that comes as the last one that there is room for says so, and no other does. -/
  push_fst_iff : ∀ row, (shape.push w row).1 = true ↔ rows.length + 1 = shape.size
  push_of_full : w.length = shape.size → ∀ row, shape.push w row = (false, w)
  pushPacket_eq : ∀ p d, shape.pushPacket w p d = shape.push w (shape.row p d)
  inPlace : shape.InPlace w
  length_flatten : (shape.flatten w).length = shape.size * shape.width
  getElem?_flatten : ∀ row column, row < shape.size → column < shape.width →
    (shape.flatten w)[shape.place row column]? = some (shape.entry rows row column)
  /-- The two layouts are transposes of each other. -/
  transposed : ∀ row column, row < shape.size → column < shape.width →
    ({ shape with layout := .concatenated }.flatten w)[column * shape.size + row]? =
      ({ shape with layout := .interleaved }.flatten w)[row * shape.width + column]?

/-- **Windows accumulate rows**: after any operations on an empty window, it holds the rows accepted
since it was last empty, reports the row that fills it, and flattens to a grid of their values. -/
theorem window_accumulates (shape : WindowShape) (operations : List Window.Operation) :
    shape.Accumulates (shape.accepted operations) (shape.after operations) := by
  have hkeeps := shape.keeps_accepted operations
  have hfits := shape.fits_after operations
  generalize shape.after operations = w at hkeeps hfits
  generalize shape.accepted operations = rows at hkeeps
  refine ⟨hkeeps.length_eq, hfits.length_le, hfits.length_values, fun row => ?_,
    fun hfull row => append_of_full (Nat.le_of_eq hfull.symm) _, shape.pushPacket_eq_push w,
    hfits.inPlace, shape.length_flatten w, fun row column hrow hcolumn => ?_,
    fun row column hrow hcolumn => ?_⟩
  · rw [← hkeeps.length_eq]
    exact shape.append_fst_iff w _
  · rw [shape.getElem?_flatten w hrow hcolumn, hkeeps.cell_eq row hcolumn]
  · have hconcatenated :=
      WindowShape.getElem?_flatten { shape with layout := .concatenated } w hrow hcolumn
    have hinterleaved :=
      WindowShape.getElem?_flatten { shape with layout := .interleaved } w hrow hcolumn
    exact hconcatenated.trans hinterleaved.symm

end WindowShape

end FlowVerdict
