import FlowVerdict.Text.Split
import Mathlib.Tactic.Lemma

/-!
Lists cut in two where a run of items ends, and lists cut at a separator. A run ends with the list
or before an item that does not go on with it. A piece without separators goes to the front of the
pieces that follow it, and lines that are ended by separators are the lines that a file is cut into.
-/

namespace FlowVerdict.Text

section Runs

variable {α : Type} {p : α → Bool} {xs rest : List α}

lemma takeWhile_append_of_stop (hxs : ∀ x ∈ xs, p x = true)
    (hrest : ∀ x more, rest = x :: more → p x = false) : (xs ++ rest).takeWhile p = xs := by
  rw [List.takeWhile_append_of_pos hxs]
  cases rest with
  | nil => rw [List.takeWhile_nil, List.append_nil]
  | cons x more => rw [List.takeWhile_cons_of_neg (by simp [hrest x more rfl]), List.append_nil]

lemma dropWhile_append_of_stop (hxs : ∀ x ∈ xs, p x = true)
    (hrest : ∀ x more, rest = x :: more → p x = false) : (xs ++ rest).dropWhile p = rest := by
  rw [List.dropWhile_append_of_pos hxs]
  cases rest with
  | nil => rfl
  | cons x more => exact List.dropWhile_cons_of_neg (by simp [hrest x more rfl])

end Runs

variable {α : Type} [DecidableEq α] {separator x : α} {piece xs : List α}

@[simp] lemma split_nil (separator : α) : split separator [] = [[]] := rfl

lemma split_cons (separator x : α) (xs : List α) :
    split separator (x :: xs) = extendPieces separator x (split separator xs) := rfl

lemma split_cons_self (separator : α) (xs : List α) :
    split separator (separator :: xs) = [] :: split separator xs :=
  if_pos rfl

lemma split_cons_of_ne (hx : x ≠ separator) {first : List α} {rest : List (List α)}
    (hsplit : split separator xs = first :: rest) :
    split separator (x :: xs) = (x :: first) :: rest := by
  rw [split_cons, hsplit]
  exact if_neg hx

lemma split_ne_nil (separator : α) (xs : List α) : split separator xs ≠ [] := by
  cases xs with
  | nil => simp
  | cons x xs =>
    rw [split_cons]
    unfold extendPieces
    split
    · simp
    · split <;> simp

lemma split_append (h : separator ∉ piece) {first : List α} {rest : List (List α)}
    (hsplit : split separator xs = first :: rest) :
    split separator (piece ++ xs) = (piece ++ first) :: rest := by
  induction piece with
  | nil => exact hsplit
  | cons x piece ih =>
    obtain ⟨hx, hpiece⟩ := not_or.mp (mt List.mem_cons.mpr h)
    exact split_cons_of_ne (Ne.symm hx) (ih hpiece)

lemma split_append_separator (h : separator ∉ piece) (xs : List α) :
    split separator (piece ++ separator :: xs) = piece :: split separator xs := by
  have hcut := split_append h (split_cons_self separator xs)
  rwa [List.append_nil] at hcut

/-! ### Lines -/

lemma lines_append_separator (h : separator ∉ piece) (xs : List α) :
    lines separator (piece ++ separator :: xs) = piece :: lines separator xs := by
  have hne := split_ne_nil separator xs
  rw [lines, split_append_separator h, List.getLast?_cons_of_ne_nil hne,
    List.dropLast_cons_of_ne_nil hne, lines]
  split <;> rfl

/-- **Lines that are ended by separators are read back.** -/
theorem lines_flatMap {pieces : List (List α)} (h : ∀ piece ∈ pieces, separator ∉ piece) :
    lines separator (pieces.flatMap (· ++ [separator])) = pieces := by
  induction pieces with
  | nil => rfl
  | cons piece pieces ih =>
    obtain ⟨hpiece, hrest⟩ := List.forall_mem_cons.mp h
    rw [List.flatMap_cons, List.append_assoc, List.singleton_append,
      lines_append_separator hpiece, ih hrest]

/-! ### Encodings -/

variable {β : Type} [DecidableEq β] {mark : β} {encode : α → List β}

/-- An encoding that uses the mark for the separator, and for nothing else, may be cut at the
mark. -/
lemma split_flatMap (hmark : encode separator = [mark])
    (hfree : ∀ x, x ≠ separator → mark ∉ encode x) (xs : List α) :
    split mark (xs.flatMap encode) = (split separator xs).map (·.flatMap encode) := by
  induction xs with
  | nil => rfl
  | cons x xs ih =>
    rw [List.flatMap_cons]
    by_cases hx : x = separator
    · subst hx
      rw [hmark, List.singleton_append, split_cons_self, ih, split_cons_self]
      rfl
    · obtain ⟨first, rest, hsplit⟩ := List.exists_cons_of_ne_nil (split_ne_nil separator xs)
      have hcut : split mark (xs.flatMap encode) =
          first.flatMap encode :: rest.map (·.flatMap encode) := by
        rw [ih, hsplit]
        rfl
      rw [split_append (hfree x hx) hcut, split_cons_of_ne hx hsplit]
      rfl

lemma lines_flatMap_encode (hmark : encode separator = [mark])
    (hfree : ∀ x, x ≠ separator → mark ∉ encode x) (hne : ∀ x, encode x ≠ []) (xs : List α) :
    lines mark (xs.flatMap encode) = (lines separator xs).map (·.flatMap encode) := by
  -- No item is encoded by nothing: a piece is empty after the encoding only if it was before.
  have hlast : ((split separator xs).map (·.flatMap encode)).getLast? = some [] ↔
      (split separator xs).getLast? = some [] := by
    rw [List.getLast?_map, Option.map_eq_some_iff]
    constructor
    · rintro ⟨last, hlast, hempty⟩
      cases last with
      | nil => exact hlast
      | cons x last => simp [hne x] at hempty
    · exact fun hlast => ⟨[], hlast, rfl⟩
  rw [lines, split_flatMap hmark hfree, lines]
  simp only [hlast]
  split
  · exact List.map_dropLast.symm
  · rfl

end FlowVerdict.Text
