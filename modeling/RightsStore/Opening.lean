import RightsStore.Database.Statements
import RightsStore.Program

namespace RightsStore

namespace Opening

open Failure (ofExecuted)

def creation (d : Dialect) (t : Table) : Command Unit := do
  set (← ofExecuted ((← MonadState.get).create d t))

def addition (m : Migration) : Command Unit := do
  set (← ofExecuted ((← MonadState.get).addColumn m.column))

def migrations (d : Dialect) : Table → List Migration
  | .content => d.contentMigrations
  | .license => []

def prepared (d : Dialect) (t : Table) : List Event :=
  t.statements.map fun s => .prepared t s.name (s.rendered d)

end Opening

namespace Program

open Opening

def migrate (m : Migration) : Program Unit := do
  try
    transaction (execute (addition m))
    say (.migrated m.sql)
  catch
    | .refused r => say (.migrationSkipped r)
    | f => throw f

def openTable (d : Dialect) (t : Table) : Program Unit := do
  try transaction (execute (creation d t))
  catch
    | .refused r =>
      say (.creationFailed t r)
      throw (.refused r)
    | f => throw f
  (migrations d t).forM migrate
  (prepared d t).forM say

end Program

end RightsStore
