import RightsStore.Calendar.Iso.Reader
import RightsStore.Schema

namespace RightsStore.Schema

open Text

inductive Fault
  | missing
  | null
  | notText
  | notInteger
  | tooLarge
  | notMoment
  | unknown
  | notObject
  deriving DecidableEq, Repr

def Fault.message : Fault → String
  | .missing => "Missing data for required field."
  | .null => "Field may not be null."
  | .notText => "Not a valid string."
  | .notInteger => "Not a valid integer."
  | .tooLarge => "Number too large."
  | .notMoment => "Not a valid datetime."
  | .unknown => "Unknown field."
  | .notObject => "Invalid input type."

/-- Faults by the name of their field; what is wrong with a whole document is under `_schema`. -/
inductive Faults
  | here (f : Fault)
  | under (faults : List (String × Faults))

namespace Faults

def notObject : List (String × Faults) := [("_schema", .here .notObject)]

mutual

def document : Faults → Document
  | .here f => .list [.text f.message]
  | .under fs => .object (fieldDocuments fs)

def fieldDocuments : List (String × Faults) → List (String × Document)
  | [] => []
  | (n, f) :: fs => (n, document f) :: fieldDocuments fs

end

end Faults

abbrev Loaded := Except Faults (Option Document)

def loadInteger : Document → Except Fault Int
  | .int n => .ok n
  | .real x =>
    match x.truncated? with
    | some n => .ok n
    | none => .error .tooLarge
  | .irregular .negativeZero => .ok 0
  | .text s =>
    match readInteger s.toList with
    | .ok n => .ok n
    | .error _ => .error .notInteger
  | _ => .error .notInteger

def loadMoment : Document → Except Fault Moment
  | .text s =>
    match Moment.ofIso s.toList with
    | .ok t => .ok t
    | .error _ => .error .notMoment
  | _ => .error .notMoment

def loadText : Document → Except Fault String
  | .text s => .ok s
  | _ => .error .notText

def Kind.load (k : Kind) (d : Document) : Except Fault Document :=
  match k with
  | .text => (loadText d).map .text
  | .integer => (loadInteger d).map .int
  | .moment => (loadMoment d).map .moment

def Field.load (f : Field) : Option Document → Loaded
  | none => if f.required then .error (.here .missing) else .ok none
  | some .null => if f.nullable then .ok (some .null) else .error (.here .null)
  | some d =>
    match f.kind.load d with
    | .ok v => .ok (some v)
    | .error e => .error (.here e)

def loadFields (loaders : List (String × (Option Document → Loaded)))
    (fields : List (String × Document)) : Except (List (String × Faults)) Document :=
  let results := loaders.map fun l => (l.1, l.2 (fields.lookup l.1))
  let faults := results.filterMap fun r =>
    match r.2 with
    | .error e => some (r.1, e)
    | .ok _ => none
  let unknown := fields.filter fun f => !(loaders.map (·.1)).contains f.1
  let faults := faults ++ unknown.map fun f => (f.1, .here .unknown)
  if faults.isEmpty then
    .ok <| .object <| results.filterMap fun r =>
      match r.2 with
      | .ok (some d) => some (r.1, d)
      | _ => none
  else .error faults

def loadObject (loaders : List (String × (Option Document → Loaded))) :
    Document → Except (List (String × Faults)) Document
  | .object fields => loadFields loaders fields
  | _ => .error Faults.notObject

def loadGroup (fields : List Field) : Option Document → Loaded
  | none => .ok none
  | some .null => .error (.here .null)
  | some d =>
    match loadObject (fields.map fun f => (f.name, f.load)) d with
    | .ok d => .ok (some d)
    | .error e => .error (.under e)

def Entry.load : Entry → Option Document → Loaded
  | .field f => f.load
  | .group _ fields => loadGroup fields

def load (s : Schema) : Document → Except (List (String × Faults)) Document :=
  loadObject (s.map fun e => (e.name, e.load))

def loadMany (s : Schema) : Document → Except (List (String × Faults)) Document
  | .list ds =>
    let results := ds.map s.load
    let faults := results.zipIdx.filterMap fun r =>
      match r.1 with
      | .error e => some (toString r.2, .under e)
      | .ok _ => none
    if faults.isEmpty then
      .ok <| .list <| results.filterMap fun r =>
        match r with
        | .ok d => some d
        | .error _ => none
    else .error faults
  | _ => .error Faults.notObject

end RightsStore.Schema
