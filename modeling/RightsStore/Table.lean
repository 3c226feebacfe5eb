import RightsStore.Dialect

namespace RightsStore

def defaultMediaType : String := "application/epub+zip"

inductive Table
  | content
  | license
  deriving DecidableEq, Repr

def Table.name : Table → String
  | .content => "content"
  | .license => "license"

inductive Default
  | null
  | number (n : Nat)
  | text (s : String)
  deriving DecidableEq, Repr

def Default.literal : Default → String
  | .null => "NULL"
  | .number n => toString n
  | .text s => s!"'{s}'"

def Default.clause : Default → String
  | .null => " DEFAULT NULL"
  | d => " default " ++ d.literal

structure Column where
  name : String
  declared : String
  required : Bool := false
  default : Option Default := none
  primary : Bool := false
  deriving DecidableEq, Repr

def Column.definition (c : Column) (written : String) : String :=
  written ++ " " ++ c.declared ++ (if c.primary then " PRIMARY KEY" else "") ++
    (if c.required then " NOT NULL" else "") ++ (c.default.map Default.clause).getD ""

structure Migration where
  column : Column

def Migration.sql (m : Migration) : String :=
  "ALTER TABLE content ADD COLUMN \"" ++ m.column.name ++ "\" " ++ m.column.declared ++
    (if m.column.required then " NOT NULL" else "") ++
    (m.column.default.map fun d => " DEFAULT " ++ d.literal).getD ""

namespace Dialect

/-- The name of the column `type` is quoted; all other names stand as they are. -/
def quote (d : Dialect) (name : String) : String :=
  if name = "type" then
    match d with
    | .mysql => "\x60type\x60"
    | _ => "\"type\""
  else name

def typeColumn (declared : String) : Column :=
  { name := "type", declared, required := true, default := some (.text defaultMediaType) }

def keyType : Dialect → String
  | .postgres => "bytea"
  | _ => "varchar(64)"

def baseColumns (keyType : String) : List Column := [
  { name := "id", declared := "varchar(255)", primary := true },
  { name := "encryption_key", declared := keyType, required := true },
  { name := "location", declared := "text", required := true },
  { name := "length", declared := "bigint" },
  { name := "sha256", declared := "varchar(64)" }]

def contentColumns (d : Dialect) : List Column :=
  baseColumns d.keyType ++ [typeColumn "varchar(256)"]

def licenseTypes : Dialect → String × String × String × String
  | .postgres => ("VARCHAR(255)", "TIMESTAMPTZ", "INT", "INT")
  | _ => ("varchar(255)", "datetime", "int(11)", "integer")

def licenseColumns (d : Dialect) : List Column :=
  let (name, moment, count, status) := d.licenseTypes
  let optional := fun (n t : String) => { name := n, declared := t, default := some .null : Column }
  [ { name := "id", declared := name, primary := true },
    { name := "user_id", declared := name, required := true },
    { name := "provider", declared := name, required := true },
    { name := "issued", declared := moment, required := true },
    optional "updated" moment,
    optional "rights_print" count,
    optional "rights_copy" count,
    optional "rights_start" moment,
    optional "rights_end" moment,
    { name := "content_fk", declared := name, required := true },
    { name := "lsd_status", declared := status, default := some (.number 0) }]

def columns (d : Dialect) : Table → List Column
  | .content => d.contentColumns
  | .license => d.licenseColumns

def creation (d : Dialect) (t : Table) : String :=
  let constraints := match t with
    | .content => []
    | .license => ["FOREIGN KEY(content_fk) REFERENCES content(id)"]
  s!"CREATE TABLE IF NOT EXISTS {t.name} (" ++
    ",".intercalate ((d.columns t).map (fun c => c.definition (d.quote c.name)) ++ constraints) ++
    ")"

def typeMigration : Migration := ⟨typeColumn "varchar(255)"⟩

def contentMigrations : Dialect → List Migration
  | .sqlite => [typeMigration]
  | _ => []

end Dialect

end RightsStore
