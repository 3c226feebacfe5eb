import RightsStore.Record.Shown

namespace RightsStore

inductive ErrorKind
  | store
  | notFound
  | contentNotFound
  | licenseNotFound
  deriving DecidableEq, Repr

namespace ErrorKind

def name : ErrorKind → String
  | .store => "StoreError"
  | .notFound => "NotFoundError"
  | .contentNotFound => "ContentNotFound"
  | .licenseNotFound => "LicenseNotFound"

def ofName? (s : String) : Option ErrorKind :=
  [.store, .notFound, .contentNotFound, .licenseNotFound].find? (·.name == s)

def ofTable : Table → ErrorKind
  | .content => .contentNotFound
  | .license => .licenseNotFound

def notFoundLineage : List String :=
  [name .notFound, name .store, "LookupError", "Exception", "BaseException", "object"]

def lineage : ErrorKind → List String
  | .store => [name .store, "Exception", "BaseException", "object"]
  | .notFound => notFoundLineage
  | k => k.name :: notFoundLineage

/-- The words used when none, or an empty text, are given; a plain store error has no default. -/
def default? : ErrorKind → Option String
  | .store => none
  | .notFound => some "Record not found"
  | .contentNotFound => some "Content not found"
  | .licenseNotFound => some "License not found"

def silent (k : ErrorKind) : String := k.default?.getD ""

def saying (k : ErrorKind) (words : Datum) : String :=
  match k.default? with
  | none => words.plain
  | some d => if words.isEmpty then d else words.plain

@[simp] theorem ofName?_name (k : ErrorKind) : ofName? k.name = some k := by
  cases k <;> rfl

end ErrorKind

end RightsStore
