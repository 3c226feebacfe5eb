import RightsStore.Engine
import RightsStore.Settings

namespace RightsStore

structure Container where
  engine : Engine
  dialect : Dialect
  deriving DecidableEq, Repr

def Container.ofUrl (i : Installation) (url : List Char) : Except EngineFault Container := do
  let engine ← Engine.create i url
  return { engine, dialect := .ofSetting url }

namespace Settings

def urlOr (s : Settings) (given : Option String) : String :=
  let url := given.getD ""
  if url = "" then s.databaseUrl else url

def container (s : Settings) (i : Installation) (given : Option String) :
    Except EngineFault Container :=
  Container.ofUrl i (s.urlOr given).toList

end Settings

end RightsStore
