import RightsStore.Container
import RightsStore.Disk
import RightsStore.LogLevel
import RightsStore.Options
import RightsStore.Session

namespace RightsStore

inductive BootstrapFault
  | level (f : LogFault)
  | engine (f : EngineFault)
  | connect (f : ConnectFault)
  deriving DecidableEq, Repr

def BootstrapFault.message : BootstrapFault → String
  | .level f => f.message
  | .engine f => f.message
  | .connect f => f.message

inductive Outcome
  | code (n : Nat)
  | exit (e : Exit)
  | fault (f : BootstrapFault)
  deriving DecidableEq, Repr

namespace Bootstrap

structure Run where
  outcome : Outcome
  log : List Event
  disk : Disk

def openBoth (d : Dialect) (db : Database) : Option Refusal × List Event × Database :=
  let s := { Session.start d (.container false false) with database := db }
  let (index, s) := s.openStore .content
  match index.answer with
  | .error (.refused r) => (some r, index.log, s.database)
  | _ =>
    let (licenses, s) := s.openStore .license
    match licenses.answer with
    | .error (.refused r) => (some r, index.log ++ licenses.log, s.database)
    | _ => (none, index.log ++ licenses.log, s.database)

def onDatabase (d : Dialect) (disk : Disk) (l : Location) : Run :=
  let (refusal, log, db) := openBoth d (disk.database l)
  let disk := disk.store db l
  match refusal with
  | some r => ⟨.code 1, log ++ [.bootstrapFailed r], disk⟩
  | none => ⟨.code 0, log ++ [.tablesReady d], disk⟩

def onEngine (d : Dialect) (e : Engine) (disk : Disk) : Run :=
  match e.checkConnect, disk.find e.source with
  | .error f, _ => ⟨.fault (.connect f), [], disk⟩
  | .ok (), .error f =>
    ⟨.code 1, [.creationFailed .content (.file f), .bootstrapFailed (.file f)], disk⟩
  | .ok (), .ok l => onDatabase d disk l

def onUrl (url : List Char) (disk : Disk) : Run :=
  let r : Run := match Container.ofUrl {} url with
    | .error f => ⟨.fault (.engine f), [], disk⟩
    | .ok c => onEngine c.dialect c.engine disk
  { r with log := .opening (.ofSetting url) :: r.log }

def run (settings : Settings) (args : List (List Char)) (disk : Disk) : Run :=
  match Options.read args with
  | .error e => ⟨.exit e, [], disk⟩
  | .ok options =>
    match logLevel settings ((options.logLevel.map Datum.text).getD .null) with
    | .error f => ⟨.fault (.level f), [], disk⟩
    | .ok level =>
      let r := onUrl (settings.urlOr options.databaseUrl).toList disk
      { r with log := shownAt level r.log }

end Bootstrap

end RightsStore
