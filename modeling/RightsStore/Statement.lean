import RightsStore.Dialect.Placeholder
import RightsStore.Table

namespace RightsStore

structure Statement where
  name : String
  sql : String

def columnNames (t : Table) : List String := (Dialect.sqlite.columns t).map (·.name)

def columnList (t : Table) : String := ", ".intercalate (columnNames t)

def assignments (columns : List String) : String :=
  ", ".intercalate (columns.map fun c => c ++ "=:" ++ c)

def selection (t : Table) : String := s!"SELECT {columnList t} FROM {t.name}"

def insertion (t : Table) : String :=
  s!"INSERT INTO {t.name} ({columnList t}) VALUES (" ++
    ", ".intercalate ((columnNames t).map (":" ++ ·)) ++ ")"

def change (t : Table) (columns : List String) : String :=
  s!"UPDATE {t.name} SET {assignments columns} WHERE id=:id"

def rightsColumns : List String := ["rights_print", "rights_copy", "rights_start", "rights_end"]

def Table.statements : Table → List Statement
  | .content => [
    ⟨"get", selection .content ++ " WHERE id = :id LIMIT 1"⟩,
    ⟨"add", insertion .content⟩,
    ⟨"update", change .content ["encryption_key", "location", "length", "sha256", "type"]⟩,
    ⟨"list", selection .content⟩]
  | .license => [
    ⟨"get", selection .license ++ " WHERE id = :id"⟩,
    ⟨"add", insertion .license⟩,
    ⟨"update", change .license
      (["user_id", "provider", "updated"] ++ rightsColumns ++ ["content_fk"])⟩,
    ⟨"update_rights", change .license (rightsColumns ++ ["updated"])⟩,
    ⟨"update_lsd_status", change .license ["lsd_status"]⟩,
    ⟨"list", selection .license ++ " WHERE content_fk=:content_fk LIMIT :limit OFFSET :offset"⟩,
    ⟨"list_all", selection .license ++ " ORDER BY issued desc LIMIT :limit OFFSET :offset"⟩]

def Table.statement? (t : Table) (name : String) : Option Statement :=
  t.statements.find? (·.name == name)

def Statement.rendered (s : Statement) (d : Dialect) : String := .ofList (d.render s.sql.toList)

end RightsStore
