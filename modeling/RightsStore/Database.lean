import RightsStore.Database.Affinity
import RightsStore.Database.Rows
import RightsStore.Table

/-!
The database: a content table and a license table, if they have been created, with their rows, and
another table that may be in the way.
-/

namespace RightsStore

structure ContentRow where
  id : Cell := .null
  key : Cell := .null
  location : Cell := .null
  length : Cell := .null
  sha256 : Cell := .null
  mediaType : Cell := .text defaultMediaType
  deriving DecidableEq

structure LicenseRow where
  id : Cell := .null
  userId : Cell := .null
  provider : Cell := .null
  issued : Cell := .null
  updated : Cell := .null
  print : Cell := .null
  copy : Cell := .null
  start : Cell := .null
  stop : Cell := .null
  contentId : Cell := .null
  status : Cell := .int 0
  deriving DecidableEq

/-- How a content table came about. A table from before there were media types may have been
extended by that column since. Until then the media types of its rows stand for nothing. -/
inductive ContentLayout
  | created (d : Dialect)
  | legacy
  | extended
  deriving DecidableEq, Repr

namespace ContentLayout

def columns : ContentLayout → List Column
  | .created d => d.contentColumns
  | .legacy => Dialect.baseColumns "varchar(64)"
  | .extended => Dialect.baseColumns "varchar(64)" ++ [Dialect.typeMigration.column]

def hasType : ContentLayout → Bool
  | .legacy => false
  | _ => true

def keyAffinity : ContentLayout → Affinity
  | .created .postgres => .numeric
  | _ => .text

end ContentLayout

structure ContentTable where
  layout : ContentLayout
  entries : Rows ContentRow := {}
  deriving DecidableEq

def ContentTable.rows (t : ContentTable) : List ContentRow := t.entries.toList

structure LicenseTable where
  dialect : Dialect
  entries : Rows LicenseRow := {}
  deriving DecidableEq

def LicenseTable.rows (t : LicenseTable) : List LicenseRow := t.entries.toList

/-- A further table of one column, with an index that may bear the name of one of the two. -/
structure OtherTable where
  index : Option Table := none
  entries : Rows Cell := {}
  deriving DecidableEq

/-- What chance will have chosen for the rows of each table. -/
structure Draws where
  content : List Int := []
  license : List Int := []
  other : List Int := []
  deriving DecidableEq

structure Database where
  content : Option ContentTable := none
  license : Option LicenseTable := none
  other : Option OtherTable := none
  draws : Draws := {}
  deriving DecidableEq

/-- What a name of a table may stand for. The catalogue lists the tables of the database, or those
that are temporary. -/
inductive Relation
  | content (t : ContentTable)
  | license (t : LicenseTable)
  | other (t : OtherTable)
  | catalogue (temporary : Bool)
  deriving DecidableEq

def sameName (a b : String) : Bool := a.toList.map Char.toLower = b.toList.map Char.toLower

namespace Relation

def catalogueColumns : List Column := [
  { name := "type", declared := "text" }, { name := "name", declared := "text" },
  { name := "tbl_name", declared := "text" }, { name := "rootpage", declared := "int" },
  { name := "sql", declared := "text" }]

def columns : Relation → List Column
  | .content t => t.layout.columns
  | .license t => t.dialect.licenseColumns
  | .other _ => [{ name := "a", declared := "integer" }]
  | .catalogue _ => catalogueColumns

end Relation

namespace Database

def contentRows (db : Database) : List ContentRow := (db.content.map (·.rows)).getD []

def licenseRows (db : Database) : List LicenseRow := (db.license.map (·.rows)).getD []

def has (db : Database) : Table → Bool
  | .content => db.content.isSome
  | .license => db.license.isSome

def hasIndex (db : Database) (t : Table) : Bool := db.other.any (·.index = some t)

def tableNames (db : Database) : List String :=
  (if db.content.isSome then ["content"] else []) ++
  (if db.license.isSome then ["license"] else []) ++
  (if db.other.isSome then ["other"] else [])

def relations (db : Database) : List (String × Relation) :=
  (db.content.map fun t => ("content", .content t)).toList ++
  (db.license.map fun t => ("license", .license t)).toList ++
  (db.other.map fun t => ("other", .other t)).toList ++
  [("sqlite_master", .catalogue false), ("sqlite_schema", .catalogue false),
    ("sqlite_temp_master", .catalogue true), ("sqlite_temp_schema", .catalogue true)]

def relation? (db : Database) (name : String) : Option Relation :=
  (db.relations.find? fun r => sameName r.1 name).map (·.2)

def columns (db : Database) (name : String) : List Column :=
  ((db.relation? name).map Relation.columns).getD []

end Database

end RightsStore
