import RightsStore.Database
import RightsStore.Database.Refusal

namespace RightsStore

def Default.cell : Default → Cell
  | .null => .null
  | .number n => .int n
  | .text s => .text s

def require (t : Table) (column : String) (c : Cell) : Executed Unit :=
  if c = .null then .error (.nullValue t column) else .ok ()

/-- Two ids are equal when neither is null and they are the same value. -/
def Cell.matches (a b : Cell) : Bool := a != .null && a = b

@[simp] theorem Cell.matches_null_left (b : Cell) : Cell.null.matches b = false := rfl

theorem Cell.matches_iff {a b : Cell} : a.matches b = true ↔ a ≠ .null ∧ a = b := by
  simp [Cell.matches]

theorem Cell.matches_comm (a b : Cell) : a.matches b = b.matches a := by
  rw [Bool.eq_iff_iff, matches_iff, matches_iff]
  constructor <;> rintro ⟨h, rfl⟩ <;> exact ⟨h, rfl⟩

namespace ContentRow

def convert (layout : ContentLayout) (r : ContentRow) : ContentRow where
  id := Affinity.text.convert r.id
  key := layout.keyAffinity.convert r.key
  location := Affinity.text.convert r.location
  length := Affinity.numeric.convert r.length
  sha256 := Affinity.text.convert r.sha256
  mediaType := Affinity.text.convert r.mediaType

def checkNulls (r : ContentRow) : Executed Unit := do
  require .content "encryption_key" r.key
  require .content "location" r.location
  require .content "type" r.mediaType

def set (r : ContentRow) (column : String) (c : Cell) : ContentRow :=
  match column with
  | "id" => { r with id := c }
  | "encryption_key" => { r with key := c }
  | "location" => { r with location := c }
  | "length" => { r with length := c }
  | "sha256" => { r with sha256 := c }
  | "type" => { r with mediaType := c }
  | _ => r

def ofValues (values : List (String × Cell)) : ContentRow :=
  values.foldr (fun v r => r.set v.1 v.2) {}

end ContentRow

namespace LicenseRow

def convert (r : LicenseRow) : LicenseRow where
  id := Affinity.text.convert r.id
  userId := Affinity.text.convert r.userId
  provider := Affinity.text.convert r.provider
  issued := Affinity.numeric.convert r.issued
  updated := Affinity.numeric.convert r.updated
  print := Affinity.numeric.convert r.print
  copy := Affinity.numeric.convert r.copy
  start := Affinity.numeric.convert r.start
  stop := Affinity.numeric.convert r.stop
  contentId := Affinity.text.convert r.contentId
  status := Affinity.numeric.convert r.status

def checkNulls (r : LicenseRow) : Executed Unit := do
  require .license "user_id" r.userId
  require .license "provider" r.provider
  require .license "issued" r.issued
  require .license "content_fk" r.contentId

def set (r : LicenseRow) (column : String) (c : Cell) : LicenseRow :=
  match column with
  | "id" => { r with id := c }
  | "user_id" => { r with userId := c }
  | "provider" => { r with provider := c }
  | "issued" => { r with issued := c }
  | "updated" => { r with updated := c }
  | "rights_print" => { r with print := c }
  | "rights_copy" => { r with copy := c }
  | "rights_start" => { r with start := c }
  | "rights_end" => { r with stop := c }
  | "content_fk" => { r with contentId := c }
  | "lsd_status" => { r with status := c }
  | _ => r

def ofValues (values : List (String × Cell)) : LicenseRow :=
  values.foldr (fun v r => r.set v.1 v.2) {}

def amend (old new : LicenseRow) : LicenseRow :=
  { new with id := old.id, issued := old.issued, status := old.status }

def regrant (old new : LicenseRow) : LicenseRow :=
  { old with
    updated := new.updated, print := new.print, copy := new.copy
    start := new.start, stop := new.stop }

def restate (old new : LicenseRow) : LicenseRow := { old with status := new.status }

end LicenseRow

def askedNumber (c : Cell) : Executed (Option Int) :=
  match Affinity.numeric.convert c with
  | .null => .ok none
  | .int n => .ok (some n)
  | _ => .error .badNumber

@[simp] theorem askedNumber_null : askedNumber .null = .ok none := rfl

def Rows.checkNumber (t : Rows ρ) (table : String) : Option Int → Executed Unit
  | none => .ok ()
  | some n => if t.numbers.contains n then .error (.duplicateNumber table) else .ok ()

@[simp] theorem Rows.checkNumber_none (t : Rows ρ) (table : String) :
    t.checkNumber table none = .ok () := rfl

def Rows.put (t : Rows ρ) (number : Option Int) (r : ρ) : Rows ρ :=
  match number with
  | none => t.add r
  | some n => t.insertAt n r

@[simp] theorem Rows.put_none (t : Rows ρ) (r : ρ) : t.put none r = t.add r := rfl

namespace ContentTable

def insertNumbered (t : ContentTable) (number : Cell) (r : ContentRow) : Executed ContentTable := do
  let number ← askedNumber number
  let r := r.convert t.layout
  r.checkNulls
  t.entries.checkNumber "content" number
  if t.rows.any (r.id.matches ·.id) then .error (.duplicateId .content)
  else return { t with entries := t.entries.put number r }

def insert (t : ContentTable) (r : ContentRow) : Executed ContentTable := t.insertNumbered .null r

def update (t : ContentTable) (r : ContentRow) : Executed ContentTable := do
  let r := r.convert t.layout
  if t.rows.any (r.id.matches ·.id) then r.checkNulls
  return { t with entries := t.entries.map fun old => if r.id.matches old.id then r else old }

def find? (t : ContentTable) (id : Cell) : Option ContentRow :=
  t.rows.find? ((Affinity.text.convert id).matches ·.id)

def extend (t : ContentTable) (c : Column) : ContentTable where
  layout := .extended
  entries := t.entries.map fun r => r.set c.name ((c.default.map Default.cell).getD .null)

end ContentTable

namespace LicenseTable

/-- With `references` given, a row must refer to one of those contents. -/
def checkReference (references : Option (List ContentRow)) (r : LicenseRow) : Executed Unit :=
  match references with
  | none => .ok ()
  | some contents =>
    if contents.any (r.contentId.matches ·.id) then .ok () else .error .danglingReference

def insertNumbered (t : LicenseTable) (number : Cell) (r : LicenseRow) : Executed LicenseTable := do
  let number ← askedNumber number
  let r := r.convert
  r.checkNulls
  t.entries.checkNumber "license" number
  if t.rows.any (r.id.matches ·.id) then .error (.duplicateId .license)
  else return { t with entries := t.entries.put number r }

def insert (t : LicenseTable) (r : LicenseRow) : Executed LicenseTable := t.insertNumbered .null r

/-- Merges `new` into the row with its id, and counts the rows changed. -/
def modify (t : LicenseTable) (new : LicenseRow) (merge : (old new : LicenseRow) → LicenseRow)
    (check : LicenseRow → Executed Unit) : Executed (LicenseTable × Nat) := do
  let new := new.convert
  match t.rows.find? (new.id.matches ·.id) with
  | none => return (t, 0)
  | some old =>
    check (merge old new)
    let entries := t.entries.map fun old => if new.id.matches old.id then merge old new else old
    return ({ t with entries }, 1)

def find? (t : LicenseTable) (id : Cell) : Option LicenseRow :=
  t.rows.find? ((Affinity.text.convert id).matches ·.id)

def byIssued (t : LicenseTable) : List LicenseRow :=
  t.rows.mergeSort fun a b => !a.issued.lt b.issued

def ofContent (t : LicenseTable) (contentId : Cell) : List LicenseRow :=
  t.rows.filter ((Affinity.text.convert contentId).matches ·.contentId)

end LicenseTable

namespace Database

def create (db : Database) (d : Dialect) (t : Table) : Executed Database :=
  if db.has t then .ok db
  else if db.hasIndex t then .error (.indexInTheWay t)
  else
    match t with
    | .content => .ok { db with
        content := some { layout := .created d, entries := { draws := db.draws.content } } }
    | .license => .ok { db with
        license := some { dialect := d, entries := { draws := db.draws.license } } }

/-- The rows that are there get the default of the new column. -/
def addColumn (db : Database) (c : Column) : Executed Database :=
  match db.content with
  | none => .error (.missingTable "content")
  | some t =>
    if t.layout.hasType then .error (.duplicateColumn c.name)
    else .ok { db with content := some (t.extend c) }

def addLegacyContent (db : Database) (rows : List ContentRow) : Executed Database :=
  if db.has .content then .error (.tableExists "content")
  else if db.hasIndex .content then .error (.indexInTheWay .content)
  else .ok { db with
    content := some { layout := .legacy, entries := .ofList rows db.draws.content } }

def addOther (db : Database) : Executed Database :=
  if db.other.isSome then .error (.tableExists "other")
  else .ok { db with other := some { entries := { draws := db.draws.other } } }

def indexOther (db : Database) (t : Table) : Executed Database :=
  match db.other with
  | none => .error (.missingTable "other")
  | some o =>
    if db.has t then .error (.tableInTheWay t)
    else .ok { db with other := some { o with index := some t } }

end Database

end RightsStore
