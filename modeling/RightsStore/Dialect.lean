import RightsStore.Datum.Setting
import RightsStore.Text.Blank
import RightsStore.Text.Case

namespace RightsStore

open Text

inductive Dialect
  | sqlite
  | mysql
  | postgres
  deriving DecidableEq, Repr

namespace Dialect

def name : Dialect → String
  | .sqlite => "sqlite"
  | .mysql => "mysql"
  | .postgres => "postgres"

/-- Goes by how a backend name or a database URL begins; all else is MySQL. -/
def ofSetting (setting : List Char) : Dialect :=
  let setting := lower (trim setting)
  if "postgres".toList.isPrefixOf setting then .postgres
  else if "sqlite".toList.isPrefixOf setting then .sqlite
  else .mysql

def ofValue (d : Datum) : Except NotText Dialect :=
  (d.setting "strip").map fun s => ofSetting (s.getD "").toList

def ofName? (s : String) : Option Dialect := [.sqlite, .mysql, .postgres].find? (·.name == s)

def unknownMessage (shown : List Char) : String := .ofList shown ++ " is not a valid Dialect"

@[simp] theorem ofName?_name (d : Dialect) : ofName? d.name = some d := by
  cases d <;> rfl

end Dialect

end RightsStore
