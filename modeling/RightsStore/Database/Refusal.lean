import RightsStore.Disk.FileUri
import RightsStore.Sql.Reader
import RightsStore.Table

namespace RightsStore

inductive Refusal
  | file (f : FileFault)
  | misread (m : Sql.Misreading)
  | missingTable (name : String)
  | readOnlyTable (name : String)
  | missingColumn (name : String)
  | unknownColumn (table name : String)
  | valueCount (values columns : Nat)
  | rowLength (table : String) (columns values : Nat)
  | tableExists (name : String)
  | indexInTheWay (t : Table)
  | tableInTheWay (t : Table)
  | duplicateColumn (name : String)
  | badNumber
  | nullValue (t : Table) (column : String)
  | duplicateNumber (table : String)
  | duplicateId (t : Table)
  | danglingReference
  deriving DecidableEq, Repr

namespace Refusal

def isConstraint : Refusal → Bool
  | .badNumber => true
  | .nullValue .. => true
  | .duplicateNumber _ => true
  | .duplicateId _ => true
  | .danglingReference => true
  | _ => false

def message : Refusal → String
  | .file f => f.message
  | .misread m => m.message
  | .missingTable name => s!"no such table: {name}"
  | .readOnlyTable name => s!"table {name} may not be modified"
  | .missingColumn name => s!"no such column: {name}"
  | .unknownColumn table name => s!"table {table} has no column named {name}"
  | .valueCount values columns => s!"{values} values for {columns} columns"
  | .rowLength table columns values =>
    s!"table {table} has {columns} columns but {values} values were supplied"
  | .tableExists name => s!"table {name} already exists"
  | .indexInTheWay t => s!"there is already an index named {t.name}"
  | .tableInTheWay t => s!"there is already a table named {t.name}"
  | .duplicateColumn name => s!"duplicate column name: {name}"
  | .badNumber => "datatype mismatch"
  | .nullValue t column => s!"NOT NULL constraint failed: {t.name}.{column}"
  | .duplicateNumber table => s!"UNIQUE constraint failed: {table}.rowid"
  | .duplicateId t => s!"UNIQUE constraint failed: {t.name}.id"
  | .danglingReference => "FOREIGN KEY constraint failed"

end Refusal

/-- A statement yields a value of type `α`, or the database refuses it and stays as it is. -/
abbrev Executed (α : Type) := Except Refusal α

end RightsStore
