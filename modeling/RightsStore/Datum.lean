import RightsStore.Document

namespace RightsStore

/-- A list or an object, which no store accepts, is a `composite`. -/
inductive Datum
  | cell (c : Cell)
  | irregular (x : Irregular)
  | flag (b : Bool)
  | composite (d : Document)
  deriving DecidableEq

inductive Stamp
  | moment (t : Moment)
  | datum (d : Datum)
  deriving DecidableEq

instance : Coe Cell Datum := ⟨.cell⟩
instance : Coe Datum Stamp := ⟨.datum⟩

def Document.toDatum : Document → Datum
  | .cell c => .cell c
  | .irregular x => .irregular x
  | .flag b => .flag b
  | d => .composite d

namespace Datum

@[match_pattern] abbrev null : Datum := .cell .null
@[match_pattern] abbrev int (n : Int) : Datum := .cell (.int n)
@[match_pattern] abbrev real (x : Double) : Datum := .cell (.real x)
@[match_pattern] abbrev text (s : String) : Datum := .cell (.text s)
@[match_pattern] abbrev blob (b : Text.Bytes) : Datum := .cell (.blob b)

def document : Datum → Document
  | .cell c => .cell c
  | .irregular x => .irregular x
  | .flag b => .flag b
  | .composite d => d

@[simp] theorem toDatum_document_cell (c : Cell) : (Datum.cell c).document.toDatum = .cell c := rfl

def kind (d : Datum) : String := d.document.kind

def isEmpty (d : Datum) : Bool := d.document.isEmpty

def same (a b : Datum) : Bool := a.document.same b.document

end Datum

namespace Stamp

@[match_pattern] abbrev null : Stamp := .datum .null

def document : Stamp → Document
  | .moment t => .moment t
  | .datum d => d.document

def same (a b : Stamp) : Bool := a.document.same b.document

end Stamp

end RightsStore
