import FlowVerdict.Files.Directory
import FlowVerdict.Proofs.Computation
import Mathlib.Data.List.Basic

/-!
Files written and read again. Where a path leads to be written does not depend on what is written,
and a file in its place leads it there once more: the later of two writes is the one that counts,
and what has been written is read.
-/

namespace FlowVerdict.Directory

variable {d : Directory} {place : Place} {path : String} {bytes : List UInt8}

def put (d : Directory) (place : Place) (bytes : List UInt8) : Directory :=
  if place = .nullDevice then d else ⟨(place, bytes) :: d.files.filter (·.1 != place)⟩

/-- The place of the file that is written under a path. -/
def target (d : Directory) (path : String) : Except FileError Place := do
  let parts ← parts path
  let named := (parts.reverse.dropWhile List.isEmpty).reverse
  let place ← d.enter (origin path) named.dropLast
  if named.length < parts.length || !isName (named.getLastD []) then throw .isDirectory
  let place ← step place (named.getLastD [])
  if d.isDirectory place then throw .isDirectory
  return place

lemma write_eq (d : Directory) (path : String) (bytes : List UInt8) :
    d.write path bytes = (d.target path).map (d.put · bytes) := by
  unfold write target
  cases parts path with
  | error cause => rfl
  | ok parts =>
    simp only [bind, Except.bind]
    cases d.enter (origin path) (parts.reverse.dropWhile List.isEmpty).reverse.dropLast with
    | error cause => rfl
    | ok place =>
      simp only
      split
      · rfl
      · cases step place ((parts.reverse.dropWhile List.isEmpty).reverse.getLastD []) with
        | error cause => rfl
        | ok place =>
          simp only
          split
          · rfl
          · simp only [put, pure, Except.pure, Except.map]
            split <;> rfl

/-- How a path leads to the file that is written under it: through directories to a name. -/
structure Leads (d : Directory) (path : String) (place : Place) (names : List (List Char))
    (around : Place) : Prop where
  parts_eq : parts path = .ok names
  ends_named : (names.reverse.dropWhile List.isEmpty).reverse = names
  isName_last : isName (names.getLastD []) = true
  enter_eq : d.enter (origin path) names.dropLast = .ok around
  step_eq : step around (names.getLastD []) = .ok place
  free : d.isDirectory place = false

lemma target_eq_ok_iff :
    d.target path = .ok place ↔ ∃ names around, d.Leads path place names around := by
  constructor
  · intro h
    obtain ⟨names, hparts, h⟩ := ok_of_bind h
    obtain ⟨around, henter, h⟩ := ok_of_bind h
    obtain ⟨hnamed, h⟩ := ok_of_stop h
    obtain ⟨place', hstep, h⟩ := ok_of_bind h
    obtain ⟨hfree, h⟩ := ok_of_stop h
    obtain ⟨hlength, hname⟩ := Bool.or_eq_false_iff.mp hnamed
    -- No empty part is cut off at the end, for then fewer parts than those of the path were left.
    have hends : (names.reverse.dropWhile List.isEmpty).reverse = names := by
      have hcut := List.reverse_prefix.mpr (List.dropWhile_suffix (l := names.reverse) List.isEmpty)
      rw [List.reverse_reverse] at hcut
      exact hcut.eq_of_length_le (Nat.le_of_not_lt (of_decide_eq_false hlength))
    rw [hends] at henter hname hstep
    obtain rfl : place' = place := Except.ok.inj h
    exact ⟨names, around, hparts, hends, by simpa using hname, henter, hstep, hfree⟩
  · rintro ⟨names, around, hparts, hends, hname, henter, hstep, hfree⟩
    simp only [target, hparts, ok_bind, hends, henter, hname, hstep, hfree, Nat.lt_irrefl,
      decide_false, Bool.not_true, Bool.or_false, Bool.false_eq_true, if_false]
    rfl

/-! ### A file in its place -/

lemma put_put (d : Directory) (place : Place) (bytes more : List UInt8) :
    (d.put place bytes).put place more = d.put place more := by
  unfold put
  split
  · rfl
  · simp

lemma isDirectory_put {around : Place} (h : d.isDirectory around = true) (place : Place)
    (bytes : List UInt8) : (d.put place bytes).isDirectory around = true := by
  unfold put
  split
  · exact h
  · simp only [isDirectory, Bool.or_eq_true, List.any_eq_true] at h ⊢
    refine h.imp_right fun ⟨file, hmem, hbelow⟩ => ?_
    -- The file that gives way to the new one was at the same place, below the same directories.
    by_cases hsame : file.1 = place
    · subst hsame
      exact ⟨(file.1, bytes), List.mem_cons_self, hbelow⟩
    · have hkept : file ∈ d.files.filter (·.1 != place) :=
        List.mem_filter.mpr ⟨hmem, by simpa using hsame⟩
      exact ⟨file, List.mem_cons_of_mem _ hkept, hbelow⟩

lemma isDirectory_put_self (d : Directory) (place : Place) (bytes : List UInt8) :
    (d.put place bytes).isDirectory place = d.isDirectory place := by
  unfold put
  split
  · rfl
  · have hself : (place.origin == place.origin && place.names.isPrefixOf place.names &&
        place != place) = false := by simp
    simp only [isDirectory, List.any_cons, hself, Bool.false_or, List.any_filter]
    congr 2
    funext file
    cases hne : file.1 != place <;> simp

lemma file?_put (d : Directory) (place : Place) (bytes : List UInt8) :
    (d.put place bytes).file? place = some (if place = .nullDevice then [] else bytes) := by
  unfold put file?
  split
  · rfl
  · simp

lemma enter_put {start around : Place} {names : List (List Char)}
    (h : d.enter start names = .ok around) (place : Place) (bytes : List UInt8) :
    (d.put place bytes).enter start names = .ok around := by
  induction names generalizing start with
  | nil => exact h
  | cons name names ih =>
    obtain ⟨next, hstep, h⟩ := ok_of_bind h
    cases hdir : d.isDirectory next with
    | false =>
      rw [hdir, if_neg Bool.false_ne_true] at h
      split at h <;> cases h
    | true =>
      rw [hdir, if_pos rfl] at h
      rw [enter, hstep, ok_bind, isDirectory_put hdir, if_pos rfl]
      exact ih h

namespace Leads

variable {names : List (List Char)} {around : Place}

lemma put (h : d.Leads path place names around) (bytes : List UInt8) :
    (d.put place bytes).Leads path place names around :=
  ⟨h.parts_eq, h.ends_named, h.isName_last, enter_put h.enter_eq place bytes, h.step_eq,
    (isDirectory_put_self d place bytes).trans h.free⟩

lemma resolve_eq (h : d.Leads path place names around) : d.resolve path = .ok place := by
  rw [resolve, h.parts_eq, ok_bind, h.enter_eq, ok_bind, h.step_eq]

end Leads

/-! ### Writes -/

lemma put_of_write {d' : Directory} (h : d.write path bytes = .ok d') :
    ∃ place names around, d.Leads path place names around ∧ d' = d.put place bytes := by
  rw [write_eq] at h
  cases htarget : d.target path with
  | error cause => rw [htarget] at h; cases h
  | ok place =>
    rw [htarget] at h
    obtain ⟨names, around, hleads⟩ := target_eq_ok_iff.mp htarget
    exact ⟨place, names, around, hleads, (Except.ok.inj h).symm⟩

theorem write_write {d' : Directory} (h : d.write path bytes = .ok d') (more : List UInt8) :
    d'.write path more = d.write path more := by
  obtain ⟨place, names, around, hleads, rfl⟩ := put_of_write h
  have htarget := target_eq_ok_iff.mpr ⟨names, around, hleads⟩
  have hagain := target_eq_ok_iff.mpr ⟨names, around, hleads.put bytes⟩
  rw [write_eq, write_eq, htarget, hagain, Except.map, Except.map, put_put]

/-- **What has been written is read**, except from the device that holds nothing. -/
theorem read_write {d' : Directory} (h : d.write path bytes = .ok d') :
    d'.read path = .ok (if d.resolve path = .ok .nullDevice then [] else bytes) := by
  obtain ⟨place, names, around, hleads, rfl⟩ := put_of_write h
  have hput := hleads.put bytes
  have hfile := file?_put d place bytes
  rw [read, hput.resolve_eq, ok_bind, hput.free, hleads.resolve_eq]
  simp only [hfile, Except.ok.injEq]
  rfl

end FlowVerdict.Directory
