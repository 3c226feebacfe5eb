import RightsStore.Failure
import RightsStore.Statement

namespace RightsStore

open Text

inductive Severity
  | debug
  | info
  | warning
  | error
  | critical
  deriving DecidableEq, Repr

namespace Severity

def all : List Severity := [.debug, .info, .warning, .error, .critical]

def name : Severity → String
  | .debug => "DEBUG"
  | .info => "INFO"
  | .warning => "WARNING"
  | .error => "ERROR"
  | .critical => "CRITICAL"

def number : Severity → Int
  | .debug => 10
  | .info => 20
  | .warning => 30
  | .error => 40
  | .critical => 50

end Severity

inductive Event
  | opening (d : Dialect)
  | creationFailed (t : Table) (r : Refusal)
  | migrated (sql : String)
  | migrationSkipped (r : Refusal)
  | prepared (t : Table) (name sql : String)
  | contentAdded (id : Datum)
  | contentUpdated (id : Datum)
  | licenseAdded (id contentId : Datum)
  | licenseUpdated (id : Datum)
  | rightsUpdated (id : Datum)
  | statusSet (id status : Datum)
  | streamClosed
  | bootstrapFailed (r : Refusal)
  | tablesReady (d : Dialect)
  | probe (s : Severity)
  deriving DecidableEq

def Refusal.logged (r : Refusal) : String :=
  (if r.isConstraint then "(sqlite3.IntegrityError) " else "(sqlite3.OperationalError) ") ++
    r.message

namespace Event

def severity : Event → Severity
  | .creationFailed .. => .error
  | .bootstrapFailed _ => .error
  | .migrationSkipped _ => .debug
  | .prepared .. => .debug
  | .statusSet .. => .debug
  | .streamClosed => .debug
  | .probe s => s
  | _ => .info

def tableLogger : Table → String
  | .content => "lcpstore.index"
  | .license => "lcpstore.license"

def logger : Event → String
  | .opening _ => "lcpstore.database"
  | .creationFailed t _ => tableLogger t
  | .migrated _ => tableLogger .content
  | .migrationSkipped _ => tableLogger .content
  | .prepared t _ _ => tableLogger t
  | .contentAdded _ => tableLogger .content
  | .contentUpdated _ => tableLogger .content
  | .licenseAdded _ _ => tableLogger .license
  | .licenseUpdated _ => tableLogger .license
  | .rightsUpdated _ => tableLogger .license
  | .statusSet _ _ => tableLogger .license
  | .streamClosed => "lcpstore.cursor"
  | .bootstrapFailed _ => "init_db"
  | .tablesReady _ => "init_db"
  | .probe _ => "probe"

def message : Event → String
  | .opening d => s!"Opening stores with {d.name} dialect"
  | .creationFailed t r => s!"Error creating {t.name} table: " ++ r.logged
  | .migrated sql => "Applied content table migration: " ++ sql
  | .migrationSkipped r => "Skipped content table migration: " ++ r.logged
  | .prepared t name sql => s!"Prepared {t.name}.{name}: " ++ sql
  | .contentAdded id => "Added content " ++ id.plain
  | .contentUpdated id => "Updated content " ++ id.plain
  | .licenseAdded id contentId => "Added license " ++ id.plain ++ " for content " ++ contentId.plain
  | .licenseUpdated id => "Updated license " ++ id.plain
  | .rightsUpdated id => "Updated rights of license " ++ id.plain
  | .statusSet id status => "License " ++ id.plain ++ " status set to " ++ status.plain
  | .streamClosed => "Result stream closed"
  | .bootstrapFailed r => "Schema bootstrap failed: " ++ r.logged
  | .tablesReady d => s!"Tables ready ({d.name} dialect)"
  | .probe _ => "m"

def line (e : Event) : String :=
  e.severity.name ++ " " ++ e.logger ++ " " ++ .ofList (e.message.toList.takeWhile (· != '\n'))

end Event

end RightsStore
