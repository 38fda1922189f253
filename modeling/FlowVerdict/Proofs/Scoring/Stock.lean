import FlowVerdict.Proofs.Scoring.Library
import Mathlib.Data.List.Dedup
import Mathlib.Data.List.Induction

/-!
Libraries filled model by model. Models are offered one after the other, under any names and with or
without faults, and what is wrong with a model keeps it out.

Each name then stands for the last whole model offered under it. A model in a library is whole, so
the pairs that its sums are made of leave nothing out, its answers have a probability for each
channel, and the shape that the library gives for a name is the shape that its answers have.
-/

namespace FlowVerdict

/-- The model has channels, a bias for each of them, and in each a weight for every value of the
input. -/
def LinearModel.IsWhole (m : LinearModel) : Prop :=
  m.weights ≠ [] ∧ m.weights.length = m.bias.length ∧ ∀ row ∈ m.weights, row.length = m.inputLength

instance : DecidablePred LinearModel.IsWhole := fun m =>
  inferInstanceAs (Decidable (m.weights ≠ [] ∧ m.weights.length = m.bias.length ∧
    ∀ row ∈ m.weights, row.length = m.inputLength))

lemma LinearModel.fault?_eq_none_iff_isWhole {m : LinearModel} : m.fault? = none ↔ m.IsWhole :=
  fault?_eq_none_iff

namespace ModelLibrary

structure Offer where
  name : String
  model : LinearModel

variable {library : ModelLibrary} {offers : List Offer} {o : Offer} {name : String}
  {m : LinearModel} {e : ScoringError} {features answer : List Float32}

/-- What becomes of an offer, and the library after it. -/
def offer (library : ModelLibrary) (o : Offer) : Except ScoringError Unit × ModelLibrary :=
  match library.insert o.name o.model with
  | .ok more => (.ok (), more)
  | .error e => (.error e, library)

def stock (offers : List Offer) : ModelLibrary :=
  offers.foldl (fun library o => (library.offer o).2) .empty

/-- The last whole model offered under a name. -/
def lastWhole (offers : List Offer) (name : String) : Option LinearModel :=
  (offers.filterMap fun o =>
    if o.name = name ∧ o.model.IsWhole then some o.model else none).getLast?

/-- The names under which whole models were offered, each of them once. -/
def namesOf (offers : List Offer) : List String :=
  ((offers.filter fun o => o.model.IsWhole).map Offer.name).dedup

/-! ### One offer -/

lemma offer_of_isWhole (library : ModelLibrary) (h : o.model.IsWhole) :
    ∃ more, library.insert o.name o.model = .ok more ∧ library.offer o = (.ok (), more) := by
  have hfault := LinearModel.fault?_eq_none_iff_isWhole.mpr h
  have hinsert : library.insert o.name o.model =
      .ok ⟨(o.name, o.model) :: library.models.filter (·.1 != o.name)⟩ := by
    rw [insert, hfault]
  exact ⟨_, hinsert, by rw [offer, hinsert]⟩

lemma offer_of_not_isWhole (library : ModelLibrary) (h : ¬o.model.IsWhole) :
    ∃ reason, library.offer o = (.error (.unusable o.name reason), library) := by
  rw [← LinearModel.fault?_eq_none_iff_isWhole, ← ne_eq, Option.ne_none_iff_exists'] at h
  obtain ⟨fault, hfault⟩ := h
  refine ⟨fault.message, ?_⟩
  rw [offer, insert, hfault]

lemma offer_fst_eq_ok_iff : (library.offer o).1 = .ok () ↔ o.model.IsWhole := by
  by_cases h : o.model.IsWhole
  · obtain ⟨more, -, hoffer⟩ := library.offer_of_isWhole h
    simp [hoffer, h]
  · obtain ⟨reason, hoffer⟩ := library.offer_of_not_isWhole h
    simp [hoffer, h]

lemma find?_offer (library : ModelLibrary) (o : Offer) (name : String) :
    (library.offer o).2.find? name =
      if o.name = name ∧ o.model.IsWhole then some o.model else library.find? name := by
  by_cases h : o.model.IsWhole
  · obtain ⟨more, hinsert, hoffer⟩ := library.offer_of_isWhole h
    rw [hoffer, (of_insert hinsert).2 name]
    simp only [h, and_true, eq_comm (a := name)]
  · obtain ⟨reason, hoffer⟩ := library.offer_of_not_isWhole h
    simp [hoffer, h]

/-! ### All offers -/

lemma stock_snoc (offers : List Offer) (o : Offer) :
    stock (offers ++ [o]) = ((stock offers).offer o).2 := by
  rw [stock, List.foldl_append]
  rfl

lemma lastWhole_snoc (offers : List Offer) (o : Offer) (name : String) :
    lastWhole (offers ++ [o]) name =
      if o.name = name ∧ o.model.IsWhole then some o.model else lastWhole offers name := by
  rw [lastWhole, List.filterMap_append, List.getLast?_append, lastWhole]
  by_cases h : o.name = name ∧ o.model.IsWhole
  · simp [h]
  · simp [h]

/-- **A name stands for the last whole model offered under it.** -/
theorem find?_stock (offers : List Offer) (name : String) :
    (stock offers).find? name = lastWhole offers name := by
  induction offers using List.reverseRecOn with
  | nil => rfl
  | append_singleton offers o ih => rw [stock_snoc, find?_offer, lastWhole_snoc, ih]

lemma stocked_stock (offers : List Offer) : (stock offers).Stocked := by
  induction offers using List.reverseRecOn with
  | nil => exact .empty
  | append_singleton offers o ih =>
    rw [stock_snoc]
    by_cases h : o.model.IsWhole
    · obtain ⟨more, hinsert, hoffer⟩ := (stock offers).offer_of_isWhole h
      rw [hoffer]
      exact ih.insert hinsert
    · obtain ⟨reason, hoffer⟩ := (stock offers).offer_of_not_isWhole h
      rw [hoffer]
      exact ih

lemma lastWhole_eq_none_iff :
    lastWhole offers name = none ↔ ∀ o ∈ offers, o.name = name → ¬o.model.IsWhole := by
  rw [lastWhole, List.getLast?_eq_none_iff, List.filterMap_eq_nil_iff]
  simp

lemma mem_namesOf : name ∈ namesOf offers ↔ ∃ o ∈ offers, o.name = name ∧ o.model.IsWhole := by
  rw [namesOf, List.mem_dedup]
  simp only [List.mem_map, List.mem_filter, decide_eq_true_eq]
  exact ⟨fun ⟨o, ⟨ho, hwhole⟩, hname⟩ => ⟨o, ho, hname, hwhole⟩,
    fun ⟨o, ho, hname, hwhole⟩ => ⟨o, ⟨ho, hwhole⟩, hname⟩⟩

lemma Stocked.nodup (h : library.Stocked) : (library.models.map Prod.fst).Nodup := by
  induction h with
  | empty => exact List.nodup_nil
  | @insert library _ key m _ entered ih =>
    unfold ModelLibrary.insert at entered
    split at entered
    · cases entered
    · obtain rfl := Except.ok.inj entered
      rw [List.map_cons, List.nodup_cons]
      refine ⟨by simp, ?_⟩
      exact ih.sublist (List.filter_sublist.map Prod.fst)

lemma mem_names_iff : name ∈ library.models.map Prod.fst ↔ library.find? name ≠ none := by
  rw [find?, ne_eq, List.lookup_eq_none_iff]
  simp

lemma size_stock (offers : List Offer) : (stock offers).size = (namesOf offers).length := by
  -- Neither list repeats a name, so it is enough that they have the same names.
  have hsame : ((stock offers).models.map Prod.fst).Perm (namesOf offers) := by
    refine (List.perm_ext_iff_of_nodup (stocked_stock offers).nodup (List.nodup_dedup _)).mpr
      fun name => ?_
    rw [mem_names_iff, find?_stock, ne_eq, lastWhole_eq_none_iff]
    refine Iff.trans ?_ mem_namesOf.symm
    push Not
    rfl
  have hlength := hsame.length_eq
  rwa [List.length_map] at hlength

/-! ### Answers -/

lemma shape_eq_none_iff : library.shape name = none ↔ library.find? name = none := by
  rw [shape, Option.map_eq_none_iff]

lemma shape_eq_some_iff {shape : ModelShape} :
    library.shape name = some shape ↔ ∃ m, library.find? name = some m ∧ m.shape = shape := by
  rw [ModelLibrary.shape, Option.map_eq_some_iff]

lemma evaluate_of_mismatch (hfind : library.find? name = some m)
    (hlength : features.length ≠ m.inputLength) :
    library.evaluate name features =
      .error (.shapeMismatch name m.inputLength features.length) := by
  simp [evaluate, hfind, hlength]

lemma evaluate_of_unknown (hfind : library.find? name = none) :
    library.evaluate name features = .error (.unknownModel name) := by
  simp [evaluate, hfind]

lemma evaluate_cases (library : ModelLibrary) (name : String) (features : List Float32) :
    library.find? name = none ∧ library.evaluate name features = .error (.unknownModel name) ∨
    ∃ m, library.find? name = some m ∧
      (features.length = m.inputLength ∧
          library.evaluate name features = .ok (m.predict features) ∨
        features.length ≠ m.inputLength ∧ library.evaluate name features =
          .error (.shapeMismatch name m.inputLength features.length)) := by
  cases hfind : library.find? name with
  | none => exact .inl ⟨rfl, evaluate_of_unknown hfind⟩
  | some m =>
    by_cases hlength : features.length = m.inputLength
    · exact .inr ⟨m, rfl, .inl ⟨hlength, evaluate_of_find hfind hlength⟩⟩
    · exact .inr ⟨m, rfl, .inr ⟨hlength, evaluate_of_mismatch hfind hlength⟩⟩

lemma evaluate_ok_iff (library : ModelLibrary) (name : String) (features : List Float32) :
    (∃ answer, library.evaluate name features = .ok answer) ↔
      ∃ shape, library.shape name = some shape ∧ features.length = shape.inputLength := by
  rcases library.evaluate_cases name features with
    ⟨hfind, heval⟩ | ⟨m, hfind, ⟨hlength, heval⟩ | ⟨hlength, heval⟩⟩
  · simp [heval, shape, hfind]
  · simp [heval, shape, hfind, LinearModel.shape, hlength]
  · simp [heval, shape, hfind, LinearModel.shape, hlength]

lemma evaluate_unknown_iff (library : ModelLibrary) (name : String) (features : List Float32) :
    library.evaluate name features = .error (.unknownModel name) ↔ library.shape name = none := by
  rcases library.evaluate_cases name features with
    ⟨hfind, heval⟩ | ⟨m, hfind, ⟨-, heval⟩ | ⟨-, heval⟩⟩
  · simp [heval, shape, hfind]
  · simp [heval, shape, hfind]
  · simp [heval, shape, hfind]

lemma evaluate_mismatch_iff (library : ModelLibrary) (name : String) (features : List Float32)
    (expected actual : Nat) :
    library.evaluate name features = .error (.shapeMismatch name expected actual) ↔
      (∃ shape, library.shape name = some shape ∧ shape.inputLength = expected) ∧
        features.length = actual ∧ actual ≠ expected := by
  rcases library.evaluate_cases name features with
    ⟨hfind, heval⟩ | ⟨m, hfind, ⟨hlength, heval⟩ | ⟨hlength, heval⟩⟩
  · simp [heval, shape, hfind]
  · simp only [heval, shape, hfind, Option.map_some, LinearModel.shape, Option.some.injEq,
      exists_eq_left', reduceCtorEq, false_iff]
    rintro ⟨hexpected, hactual, hne⟩
    exact hne (hactual.symm.trans (hlength.trans hexpected))
  · simp only [heval, shape, hfind, Option.map_some, LinearModel.shape, Option.some.injEq,
      exists_eq_left', Except.error.injEq, ScoringError.shapeMismatch.injEq, true_and]
    refine and_congr_right fun hexpected => ⟨fun hactual => ⟨hactual, ?_⟩, fun h => h.1⟩
    rwa [← hexpected, ← hactual]

lemma evaluate_error_cases (h : library.evaluate name features = .error e) :
    e = .unknownModel name ∨ ∃ expected actual, e = .shapeMismatch name expected actual := by
  rcases library.evaluate_cases name features with
    ⟨-, heval⟩ | ⟨m, -, ⟨-, heval⟩ | ⟨-, heval⟩⟩
  · exact .inl (Except.error.inj (h.symm.trans heval))
  · cases h.symm.trans heval
  · exact .inr ⟨_, _, Except.error.inj (h.symm.trans heval)⟩

lemma Stocked.length_answer (hstocked : library.Stocked)
    (h : library.evaluate name features = .ok answer) :
    ∃ shape, library.shape name = some shape ∧ answer.length = shape.channels := by
  rcases library.evaluate_cases name features with
    ⟨-, heval⟩ | ⟨m, hfind, ⟨-, heval⟩ | ⟨-, heval⟩⟩
  · cases h.symm.trans heval
  · obtain rfl := Except.ok.inj (h.symm.trans heval)
    exact ⟨m.shape, shape_eq_some_iff.mpr ⟨m, hfind, rfl⟩,
      LinearModel.length_predict (hstocked.fault?_eq_none hfind) features⟩
  · cases h.symm.trans heval

/-- A whole model multiplies every weight by a value, every value by a weight in each channel, and
adds every bias. -/
lemma length_products_and_sums (hwhole : m.IsWhole) (hlength : features.length = m.inputLength) :
    (∀ row ∈ m.weights, (List.zipWith (· * ·) row features).length = row.length ∧
      (List.zipWith (· * ·) row features).length = features.length) ∧
    (m.sums features).length = m.weights.length ∧ (m.sums features).length = m.bias.length := by
  obtain ⟨-, hbias, hrows⟩ := hwhole
  refine ⟨fun row hrow => ?_, ?_⟩
  · have hsame : row.length = features.length := (hrows row hrow).trans hlength.symm
    rw [List.length_zipWith, hsame, Nat.min_self]
    exact ⟨rfl, rfl⟩
  · rw [LinearModel.sums, List.length_zipWith, hbias, Nat.min_self]
    exact ⟨rfl, rfl⟩

structure Reflects (library : ModelLibrary) (offers : List Offer) : Prop where
  find?_eq : ∀ name, library.find? name = lastWhole offers name
  size_eq : library.size = (namesOf offers).length
  refused : ∀ o : Offer, ¬o.model.IsWhole →
    ∃ reason, library.offer o = (.error (.unusable o.name reason), library)
  entered : ∀ o : Offer, o.model.IsWhole → (library.offer o).1 = .ok () ∧
    ∀ name, (library.offer o).2.find? name =
      if name = o.name then some o.model else library.find? name
  shape_eq_none_iff : ∀ name, library.shape name = none ↔
    ∀ o ∈ offers, o.name = name → ¬o.model.IsWhole
  ok_iff : ∀ name features, (∃ answer, library.evaluate name features = .ok answer) ↔
    ∃ shape, library.shape name = some shape ∧ features.length = shape.inputLength
  length_answer : ∀ name features answer, library.evaluate name features = .ok answer →
    ∃ shape, library.shape name = some shape ∧ answer.length = shape.channels
  unknown_iff : ∀ name features,
    library.evaluate name features = .error (.unknownModel name) ↔ library.shape name = none
  mismatch_iff : ∀ name features expected actual,
    library.evaluate name features = .error (.shapeMismatch name expected actual) ↔
      (∃ shape, library.shape name = some shape ∧ shape.inputLength = expected) ∧
        features.length = actual ∧ actual ≠ expected
  /-- There are no other errors, and errors name the model that was asked. -/
  error_cases : ∀ name features e, library.evaluate name features = .error e →
    e = .unknownModel name ∨ ∃ expected actual, e = .shapeMismatch name expected actual
  nothing_left_out : ∀ name m features, library.find? name = some m →
    features.length = m.inputLength →
      (∀ row ∈ m.weights, (List.zipWith (· * ·) row features).length = row.length ∧
        (List.zipWith (· * ·) row features).length = features.length) ∧
      (m.sums features).length = m.weights.length ∧ (m.sums features).length = m.bias.length

/-- **A library reflects what was offered to it.** After any offers, a name stands for the last
whole model offered under it; an offer is refused exactly if the model is not whole, and then
nothing changes; a question is answered exactly if its length is that of the shape of its name, with
as many probabilities as the shape has channels, and every other question gets the error that
fits. -/
theorem library_reflects_offers (offers : List Offer) : (stock offers).Reflects offers := by
  have hstocked : (stock offers).Stocked := stocked_stock offers
  have hwhole : ∀ {name m}, (stock offers).find? name = some m → m.IsWhole := fun hfind =>
    LinearModel.fault?_eq_none_iff_isWhole.mp (hstocked.fault?_eq_none hfind)
  refine ⟨find?_stock offers, size_stock offers, fun o h => offer_of_not_isWhole _ h,
    fun o h => ⟨offer_fst_eq_ok_iff.mpr h, fun name => ?_⟩, fun name => ?_, evaluate_ok_iff _,
    fun _ _ _ => hstocked.length_answer, evaluate_unknown_iff _, evaluate_mismatch_iff _,
    fun _ _ _ => evaluate_error_cases, fun _ _ _ hfind => length_products_and_sums (hwhole hfind)⟩
  · rw [find?_offer]
    simp only [h, and_true, eq_comm (a := name)]
  · rw [shape_eq_none_iff, find?_stock, lastWhole_eq_none_iff]

end ModelLibrary

end FlowVerdict
