import RightsStore.Binding
import RightsStore.Database.Insertion
import RightsStore.Sql.Inquiry

namespace RightsStore

open Failure (ofExecuted)

def ofReading (x : Except Sql.Misreading α) : Except Failure α := ofExecuted (x.mapError .misread)

def checkText (sql : String) : Except Failure (List Char) :=
  if sql.toList.contains '\x00' then .error .nullCharacter else .ok sql.toList

def checkSingle (more : Bool) : Except Failure Unit :=
  if more then .error .severalStatements else .ok ()

def Database.insertWorded (db : Database) (table : String) (values : List (String × Datum)) :
    Except Failure Database := do
  let sql ← checkText (Sql.insertionText table (values.map (·.1)))
  let (insertion, more) ← ofReading (Sql.Insertion.ofText sql)
  let (relation, targets) ← ofExecuted (db.resolve insertion)
  checkSingle more
  if insertion.parameters ≠ values.length then
    .error (.bindingCount insertion.parameters values.length)
  else
    let bound ← values.zipIdx.mapM fun (v, k) => v.2.bind (k + 1)
    ofExecuted (db.insertInto relation (targets.zip (insertion.cells bound)))

def Database.columnsWorded (db : Database) (table : String) : Except Failure (List Column) := do
  let sql ← checkText (Sql.inquiryText table)
  let (name, more) ← ofReading (Sql.inquired sql)
  checkSingle more
  return db.columns name

end RightsStore
