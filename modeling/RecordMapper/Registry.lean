import RecordMapper.Model

/-! The set of registered models. It is collected at the start, installed once, and only read after that. -/

namespace RecordMapper

structure Registry where
  models : List Metadata := []

namespace Registry

def find? (registry : Registry) (typeName : String) : Option Metadata :=
  registry.models.find? fun metadata => metadata.typeName = typeName

def lookup (registry : Registry) (typeName : String) : Outcome Metadata :=
  match registry.find? typeName with
  | some metadata => .ok metadata
  | none => .error (.notRegistered typeName)

/-- Adds a model, which must not be there yet. -/
def register (registry : Registry) (model : Model α) : Outcome Registry :=
  if (registry.find? model.name).isSome then .error (.registration (.duplicate model.name))
  else model.metadata.map fun metadata => ⟨registry.models ++ [metadata]⟩

/-- The registry after an attempt to install another one: only the first is installed. -/
def install (registry : Registry) : Option Registry → Outcome Registry
  | none => .ok registry
  | some _ => .error (.registration .installed)

end Registry

end RecordMapper
