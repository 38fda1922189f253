import Mathlib.Tactic.Lemma

/-!
Computations in several parts: what it takes for them to succeed, where they stop, and what they
leave of a state.
-/

namespace FlowVerdict

lemma ok_of_bind {ε α β : Type} {x : Except ε α} {f : α → Except ε β} {b : β}
    (h : x >>= f = .ok b) : ∃ a, x = .ok a ∧ f a = .ok b := by
  cases x with
  | error e => cases h
  | ok a => exact ⟨a, rfl, h⟩

lemma error_of_bind {ε α β : Type} {x : Except ε α} {f : α → Except ε β} {e : ε}
    (h : x >>= f = .error e) : x = .error e ∨ ∃ a, x = .ok a ∧ f a = .error e := by
  cases x with
  | error cause =>
    cases h
    exact .inl rfl
  | ok a => exact .inr ⟨a, rfl, h⟩

lemma ok_of_mapError {ε ε' α : Type} {x : Except ε α} {g : ε → ε'} {a : α}
    (h : x.mapError g = .ok a) : x = .ok a := by
  cases x with
  | error e => cases h
  | ok b => exact congrArg Except.ok (Except.ok.inj h)

lemma mapError_ok {ε ε' α : Type} (g : ε → ε') (a : α) :
    (Except.ok a : Except ε α).mapError g = .ok a := rfl

lemma mapError_error {ε ε' α : Type} (g : ε → ε') (e : ε) :
    (Except.error e : Except ε α).mapError g = .error (g e) := rfl

lemma ok_bind {ε α β : Type} (a : α) (f : α → Except ε β) : (Except.ok a >>= f) = f a := rfl

lemma ok_of_stop {ε α β : Type} {stop : Bool} {e : ε} {f : α → Except ε β} {x : Except ε β}
    {b : β} (h : (if stop then (throw e : Except ε α) >>= f else x) = .ok b) :
    stop = false ∧ x = .ok b := by
  cases stop with
  | true => cases h
  | false => exact ⟨rfl, h⟩

/-- Items that are gone through in their order all pass, or there is a first that does not. -/
lemma forall_or_first {α : Type} (passes : α → Prop) (xs : List α) :
    (∀ x ∈ xs, passes x) ∨
      ∃ front x rest, xs = front ++ x :: rest ∧ (∀ y ∈ front, passes y) ∧ ¬passes x := by
  induction xs with
  | nil => exact .inl (List.forall_mem_nil _)
  | cons x xs ih =>
    by_cases hx : passes x
    · rcases ih with hall | ⟨front, y, rest, rfl, hfront, hy⟩
      · exact .inl (List.forall_mem_cons.mpr ⟨hx, hall⟩)
      · exact .inr ⟨x :: front, y, rest, rfl, List.forall_mem_cons.mpr ⟨hx, hfront⟩, hy⟩
    · exact .inr ⟨[], x, xs, rfl, List.forall_mem_nil _, hx⟩

section State

variable {σ ε ε' α β : Type}

lemma run_bind_of_ok {x : ExceptT ε (StateM σ) α} {f : α → ExceptT ε (StateM σ) β} {s s' : σ}
    {a : α} (h : x.run.run s = (.ok a, s')) : (x >>= f).run.run s = (f a).run.run s' := by
  have hrun : (x >>= f).run.run s =
      (match x.run.run s with
        | (.ok a, s') => (f a).run.run s'
        | (.error e, s') => (.error e, s')) := by
    rw [ExceptT.run_bind, StateT.run_bind]
    rcases x.run.run s with ⟨e | a, s'⟩ <;> rfl
  rw [hrun, h]

/-- The computation leaves the state as it is. -/
def Quiet (x : StateM σ α) : Prop := ∀ s, (x.run s).2 = s

namespace Quiet

lemma pure (a : α) : Quiet (Pure.pure a : StateM σ α) := fun _ => rfl

lemma bind {x : StateM σ α} {f : α → StateM σ β} (hx : Quiet x) (hf : ∀ a, Quiet (f a)) :
    Quiet (x >>= f) := by
  intro s
  have hrun : ((x >>= f).run s).2 = ((f (x.run s).1).run (x.run s).2).2 := rfl
  rw [hrun, hf, hx]

lemma map {x : StateM σ α} (hx : Quiet x) (g : α → β) : Quiet (g <$> x) := hx

lemma run_bind {x : ExceptT ε (StateM σ) α} {f : α → ExceptT ε (StateM σ) β} (hx : Quiet x.run)
    (hf : ∀ a, Quiet (f a).run) : Quiet (x >>= f).run := by
  rw [ExceptT.run_bind]
  refine hx.bind fun r => ?_
  cases r with
  | ok a => exact hf a
  | error e => exact pure _

lemma run_adapt {x : ExceptT ε (StateM σ) α} (hx : Quiet x.run) (g : ε → ε') :
    Quiet (x.adapt g).run := by
  rw [ExceptT.run_adapt]
  exact hx.map _

end Quiet

end State

end FlowVerdict
