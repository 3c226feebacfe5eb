import RightsStore.Datum

namespace RightsStore

structure NotText where
  kind : String
  operation : String
  deriving DecidableEq, Repr

def NotText.message (f : NotText) : String := s!"'{f.kind}' object has no attribute '{f.operation}'"

namespace Datum

def setting (d : Datum) (operation : String) : Except NotText (Option String) :=
  if d.isEmpty then .ok none
  else
    match d with
    | .text s => .ok (some s)
    | d => .error ⟨d.kind, operation⟩

@[simp] theorem setting_null (operation : String) : null.setting operation = .ok none := rfl

end Datum

end RightsStore
