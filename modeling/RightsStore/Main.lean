import RightsStore.Bootstrap

namespace RightsStore

def Environment.read : IO Environment := do
  return {
    databaseUrl := ← IO.getEnv "DATABASE_URL"
    databaseEcho := ← IO.getEnv "DATABASE_ECHO"
    environment := ← IO.getEnv "ENVIRONMENT"
    logLevel := ← IO.getEnv "LOG_LEVEL" }

def Outcome.report : Outcome → IO UInt32
  | .code n => return UInt32.ofNat n
  | .exit e => return UInt32.ofNat e.code
  | .fault f => do
    IO.eprintln f.message
    return 1

end RightsStore

open RightsStore

def main (args : List String) : IO UInt32 := do
  match Settings.load (← Environment.read) with
  | .error word =>
    IO.eprintln (truthMessage word)
    return 1
  | .ok settings =>
    let r := Bootstrap.run settings (args.map (·.toList)) .empty
    for e in r.log do
      IO.println e.line
    r.outcome.report
