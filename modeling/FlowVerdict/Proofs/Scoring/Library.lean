import FlowVerdict.Proofs.Scoring.Scorer
import FlowVerdict.Scoring.Library

/-!
What a library of linear models answers.

The sums of a model pair its rows with its biases, and each row with the features, and leave out
whatever has no partner. A model without a fault has as many rows as biases, each of the length of
the input, so nothing is left out, and it gives one probability for each channel. Only such models
enter a library.
-/

namespace FlowVerdict

lemma Activation.length_apply (a : Activation) (sums : List Float32) :
    (a.apply sums).length = sums.length := by
  cases a <;> simp [apply]

namespace LinearModel

variable {m : LinearModel}

lemma rowFault?_eq_none_iff {expected : Nat} {rows : List (List Float32)} (i : Nat) :
    rowFault? expected i rows = none ↔ ∀ row ∈ rows, row.length = expected := by
  induction rows generalizing i with
  | nil => simp [rowFault?]
  | cons row rest ih =>
    by_cases h : row.length = expected
    · simp [rowFault?, h, ih]
    · simp [rowFault?, h]

lemma fault?_eq_none_iff : m.fault? = none ↔ m.weights ≠ [] ∧
    m.weights.length = m.bias.length ∧ ∀ row ∈ m.weights, row.length = m.inputLength := by
  unfold fault?
  split
  · next h => simp [List.isEmpty_iff.mp h]
  · next hrows =>
    have hne : m.weights ≠ [] := by simpa using hrows
    split
    · next hbias => simp [hbias]
    · next hbias => simp [rowFault?_eq_none_iff, hne, Classical.not_not.mp hbias]

lemma length_predict (h : m.fault? = none) (features : List Float32) :
    (m.predict features).length = m.shape.channels := by
  obtain ⟨-, hbias, -⟩ := fault?_eq_none_iff.mp h
  rw [predict, Activation.length_apply, sums, List.length_zipWith, ← hbias, Nat.min_self, shape]

end LinearModel

lemma lookup_filter_of_ne {α : Type} (l : List (String × α)) {key name : String} (h : key ≠ name) :
    (l.filter (·.1 != name)).lookup key = l.lookup key := by
  induction l with
  | nil => rfl
  | cons entry l ih =>
    obtain ⟨k, m⟩ := entry
    by_cases hk : k = name
    · have hkey : (key == name) = false := beq_false_of_ne h
      simp [List.lookup_cons, hk, hkey, ih]
    · simp [List.lookup_cons, hk, ih]

namespace ModelLibrary

variable {library library' : ModelLibrary} {name : String} {m : LinearModel}

lemma of_insert (h : library.insert name m = .ok library') :
    m.fault? = none ∧
      ∀ key, library'.find? key = if key = name then some m else library.find? key := by
  unfold insert at h
  split at h
  · cases h
  · next hfault =>
    obtain rfl := Except.ok.inj h
    refine ⟨hfault, fun key => ?_⟩
    unfold find?
    by_cases hkey : key = name
    · simp [hkey]
    · have hbeq : (key == name) = false := by simpa using hkey
      simp [List.lookup_cons, hkey, hbeq, lookup_filter_of_ne]

/-- Libraries that have come about by entering models, from an empty one on. -/
inductive Stocked : ModelLibrary → Prop
  | empty : Stocked .empty
  | insert {library library' : ModelLibrary} {name : String} {m : LinearModel}
    (stocked : Stocked library) (entered : library.insert name m = .ok library') : Stocked library'

lemma Stocked.fault?_eq_none (h : library.Stocked) (hfind : library.find? name = some m) :
    m.fault? = none := by
  induction h with
  | empty => cases hfind
  | @insert _ _ key m' _ entered ih =>
    obtain ⟨hfault, hfinds⟩ := of_insert entered
    rw [hfinds] at hfind
    split at hfind
    · obtain rfl := Option.some.inj hfind
      exact hfault
    · exact ih hfind

lemma evaluate_of_find {features : List Float32} (hfind : library.find? name = some m)
    (hlength : features.length = m.inputLength) :
    library.evaluate name features = .ok (m.predict features) := by
  simp [evaluate, hfind, hlength]

lemma answers (library : ModelLibrary) : library.backend.Answers library.evaluate :=
  fun _ _ _ => rfl

end ModelLibrary

end FlowVerdict
