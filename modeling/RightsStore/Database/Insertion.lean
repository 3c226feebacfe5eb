import RightsStore.Database.Statements
import RightsStore.Sql.Insertion

namespace RightsStore

def OtherTable.insertNumbered (t : OtherTable) (number : Cell) (values : List (String × Cell)) :
    Executed OtherTable := do
  let number ← askedNumber number
  t.entries.checkNumber "other" number
  let a := Affinity.numeric.convert ((values.lookup "a").getD .null)
  return { t with entries := t.entries.put number a }

inductive Target
  | column (name : String)
  | number
  deriving DecidableEq, Repr

def numberNames : List String := ["rowid", "oid", "_rowid_"]

def Relation.target? (r : Relation) (name : String) : Option Target :=
  match r.columns.find? (sameName ·.name name) with
  | some c => some (.column c.name)
  | none => if numberNames.any (sameName · name) then some .number else none

def Relation.targets (r : Relation) (i : Sql.Insertion) : Executed (List Target) :=
  match i.columns with
  | none => .ok (r.columns.map fun c => .column c.name)
  | some names => names.mapM fun n =>
    match r.target? n with
    | some t => .ok t
    | none => .error (.unknownColumn i.tableName n)

def miscounted (i : Sql.Insertion) (values columns : Nat) : Refusal :=
  if i.columns.isSome then .valueCount values columns
  else .rowLength i.tableName columns values

def columnValues (values : List (Target × Cell)) : List (String × Cell) :=
  values.filterMap fun
    | (.column name, c) => some (name, c)
    | (.number, _) => none

def numberValue (values : List (Target × Cell)) : Cell :=
  (values.reverse.lookup .number).getD .null

namespace Database

/-- What an insertion names as its table. The schemas are `main` and `temp`, and the catalogues are
both called the same within their schemas. -/
def destination? (db : Database) (schema : Option String) (name : String) : Option Relation :=
  match schema, db.relation? name with
  | none, r => r
  | some s, r =>
    if sameName s "main" then
      match r with
      | some (.catalogue true) => none
      | r => r
    else if sameName s "temp" then
      match r with
      | some (.catalogue _) => some (.catalogue true)
      | _ => none
    else none

def catalogueName (temporary : Bool) : String :=
  if temporary then "sqlite_temp_master" else "sqlite_master"

/-- Where an insertion goes, and what it gives values to: its table must be there and have each of
the columns that it names, and there must be a value for each of them, or for none. -/
def resolve (db : Database) (i : Sql.Insertion) : Executed (Relation × List Target) :=
  match db.destination? i.schema i.table with
  | none => .error (.missingTable i.qualifiedTable)
  | some (.catalogue temporary) => .error (.readOnlyTable (catalogueName temporary))
  | some r => do
    let targets ← r.targets i
    let values := i.operands.length
    match i.column? with
    | some name => .error (.missingColumn name)
    | none =>
      if values = targets.length || values = 0 && i.columns.isNone then return (r, targets)
      else .error (miscounted i values targets.length)

def insertInto (db : Database) (r : Relation) (values : List (Target × Cell)) :
    Executed Database := do
  let number := numberValue values
  let columns := columnValues values
  match r with
  | .content t => return { db with content := some (← t.insertNumbered number (.ofValues columns)) }
  | .license t => return { db with license := some (← t.insertNumbered number (.ofValues columns)) }
  | .other t => return { db with other := some (← t.insertNumbered number columns) }
  | .catalogue temporary => .error (.readOnlyTable (catalogueName temporary))

end Database

end RightsStore
