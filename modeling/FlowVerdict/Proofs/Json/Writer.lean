import FlowVerdict.Json.Writer
import Mathlib.Data.List.Basic
import Mathlib.Tactic.Lemma

/-!
A document on one line stays on one line, whatever its texts hold: the end of a line is escaped like
every other control character, and nothing else that the writer puts down ends a line.
-/

namespace FlowVerdict

/-- The text does not end a line. -/
def OneLine (s : String) : Prop := '\n' ∉ s.toList

instance (s : String) : Decidable (OneLine s) := inferInstanceAs (Decidable (¬_))

namespace OneLine

lemma append {s t : String} (hs : OneLine s) (ht : OneLine t) : OneLine (s ++ t) := by
  rw [OneLine, String.toList_append, List.mem_append]
  exact not_or.mpr ⟨hs, ht⟩

lemma intercalate {separator : String} (hsep : OneLine separator) {pieces : List String}
    (h : ∀ s ∈ pieces, OneLine s) : OneLine (String.intercalate separator pieces) := by
  induction pieces with
  | nil => exact List.not_mem_nil
  | cons s pieces ih =>
    obtain ⟨hs, hrest⟩ := List.forall_mem_cons.mp h
    cases pieces with
    | nil => rwa [String.intercalate_singleton]
    | cons t pieces =>
      rw [String.intercalate_cons_cons]
      exact (hs.append hsep).append (ih hrest)

lemma nat (n : Nat) : OneLine (toString n) := by
  intro h
  have hdigit := Nat.isDigit_of_mem_toDigits (by decide) (by decide) (String.toList_ofList ▸ h)
  exact absurd hdigit (by decide)

lemma integer (n : Int) : OneLine (toString n) := by
  rw [Int.toString_eq_repr, Int.repr_eq_if]
  split
  · exact nat _
  · exact append (by decide) (nat _)

end OneLine

namespace Json.Writer

lemma newline_not_mem_escape (c : Char) : '\n' ∉ escape c := by
  have hdigit : ∀ n < 16, '\n' ≠ Nat.digitChar n := by decide
  unfold escape
  split
  case h_8 _ _ _ _ hnewline _ _ =>
    split
    · next hcontrol =>
      have hhigh := hdigit (c.toNat / 16) (by omega)
      have hlow := hdigit (c.toNat % 16) (by omega)
      simp [hhigh, hlow]
    · simpa using fun h => hnewline h.symm
  all_goals decide

lemma oneLine_quote (s : String) : OneLine (quote s) := by
  have hinner : '\n' ∉ s.toList.flatMap escape := fun h => by
    obtain ⟨c, -, hc⟩ := List.mem_flatMap.mp h
    exact newline_not_mem_escape c hc
  rw [OneLine, quote, String.toList_ofList]
  simpa using hinner

lemma oneLine_text (s : String) : OneLine (compact (.text s)) := by
  rw [compact]
  · exact oneLine_quote s
  all_goals simp

lemma oneLine_integer (n : Int) : OneLine (compact (.integer n)) := by
  rw [compact]
  · exact OneLine.integer n
  all_goals simp

lemma compactMembers_eq_map (members : List (String × Datum)) :
    compactMembers members = members.map fun m => quote m.1 ++ ":" ++ compact m.2 := by
  induction members with
  | nil => rw [compactMembers, List.map_nil]
  | cons m members ih => rw [compactMembers, ih, List.map_cons]

/-- **A table stands on one line** if its values do. -/
theorem oneLine_table {members : List (String × Datum)}
    (h : ∀ m ∈ members, OneLine (compact m.2)) : OneLine (compact (.table members)) := by
  have hpieces : ∀ s ∈ compactMembers members, OneLine s := by
    intro s hs
    rw [compactMembers_eq_map] at hs
    obtain ⟨m, hm, rfl⟩ := List.mem_map.mp hs
    exact ((oneLine_quote m.1).append (by decide)).append (h m hm)
  rw [compact]
  exact (OneLine.append (by decide) (OneLine.intercalate (by decide) hpieces)).append (by decide)

end Json.Writer

end FlowVerdict
