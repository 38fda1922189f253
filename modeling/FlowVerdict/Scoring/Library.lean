import FlowVerdict.Scoring.Linear

/-!
A library of linear models by name. Only a model without a fault enters it, and a model of the same
name takes the place of the one before.
-/

namespace FlowVerdict

structure ModelLibrary where
  models : List (String × LinearModel)

namespace ModelLibrary

def empty : ModelLibrary := ⟨[]⟩

def find? (library : ModelLibrary) (name : String) : Option LinearModel :=
  library.models.lookup name

def size (library : ModelLibrary) : Nat := library.models.length

/-- The library with a model under a name, unless the model has a fault. -/
def insert (library : ModelLibrary) (name : String) (m : LinearModel) :
    Except ScoringError ModelLibrary :=
  match m.fault? with
  | some fault => .error (.unusable name fault.message)
  | none => .ok ⟨(name, m) :: library.models.filter (·.1 != name)⟩

def shape (library : ModelLibrary) (name : String) : Option ModelShape :=
  (library.find? name).map LinearModel.shape

def evaluate (library : ModelLibrary) (name : String) (features : List Float32) : Answer :=
  match library.find? name with
  | none => .error (.unknownModel name)
  | some m =>
    if features.length = m.inputLength then .ok (m.predict features)
    else .error (.shapeMismatch name m.inputLength features.length)

/-- The library as a source of evaluations. It has nothing to remember. -/
def backend (library : ModelLibrary) : Backend Unit where
  evaluate _ name features := (.answered (library.evaluate name features), ())
  shape := library.shape

end ModelLibrary

end FlowVerdict
