import RightsStore.ContentIndex
import RightsStore.Window

namespace RightsStore

/-- A row as the record it was stored from. A license without a status has status 0. -/
def LicenseRow.read (r : LicenseRow) : Except Failure License := do
  let issued ← r.issued.readStamp
  let updated ← r.updated.readStamp
  let start ← r.start.readStamp
  let stop ← r.stop.readStamp
  let status : Datum := r.status
  return {
    id := r.id, user := some ⟨r.userId⟩, provider := r.provider, issued, updated
    rights := some ⟨r.print, r.copy, start, stop⟩
    contentId := r.contentId, status := if status.isEmpty then .int 0 else status }

def License.requireUser (l : License) : Except Failure User :=
  match l.user with
  | some user => .ok user
  | none => .error .noUser

namespace LicenseStore

open Failure (ofExecuted)

/-- The time of a change: the clock's moment in UTC, to the second. -/
def now (clock : Moment) : Except Failure Moment :=
  match clock.utc? with
  | some t => .ok t.wholeSecond
  | none => .error .dateRange

def table (db : Database) : Except Failure LicenseTable :=
  match db.license with
  | none => .error (.refused (.missingTable "license"))
  | some t => .ok t

/-- A statement that writes references needs the table that they refer to. -/
def checkParent (enforce : Bool) (db : Database) : Except Failure Unit :=
  if enforce && db.content.isNone then .error (.refused (.missingTable "main.content")) else .ok ()

def references (enforce : Bool) (db : Database) : Option (List ContentRow) :=
  if enforce then some db.contentRows else none

structure Term where
  start : Cell
  stop : Cell

def bindTerm (g : Rights) : Except Failure Term := do
  let start ← g.start.bind
  let stop ← g.stop.bind
  return ⟨start, stop⟩

def find (db : Database) (id : Datum) : Except Failure (Option LicenseRow) := do
  let t ← table db
  return t.find? (← id.bind 1)

def readFound : Option LicenseRow → Except Failure License
  | none => .error (.notFound .license)
  | some r => r.read

def listPage (contentId : Datum) (page : Page) (db : Database) :
    Except Failure (List LicenseRow) := do
  let t ← table db
  let contentId ← contentId.bind 1
  let (limit, offset) ← page.bind 2
  return (← Window.ofCells limit offset).apply (t.ofContent contentId)

def listAllPage (page : Page) (db : Database) : Except Failure (List LicenseRow) := do
  let t ← table db
  let (limit, offset) ← page.bind 1
  return (← Window.ofCells limit offset).apply t.byIssued

/-- A new license has not been updated, whatever its record says. Its row is there when its
reference is followed. -/
def insertion (enforce : Bool) (l : License) (user : User) : Command Unit := do
  let issued ← l.issued.bind
  let w ← bindTerm l.grants
  let db ← MonadState.get
  let t ← table db
  checkParent enforce db
  let id ← l.id.bind 1
  let userId ← user.id.bind 2
  let provider ← l.provider.bind 3
  let print ← l.grants.print.bind 6
  let copy ← l.grants.copy.bind 7
  let contentId ← l.contentId.bind 10
  let status ← l.storedStatus.bind 11
  let row : LicenseRow := {
    id, userId, provider, issued, print, copy, start := w.start, stop := w.stop, contentId, status }
  let t ← ofExecuted (t.insert row)
  modify fun db => { db with license := some t }
  ofExecuted (LicenseTable.checkReference (references enforce db) row.convert)

/-- Replaces user, provider, rights and reference, and stamps the change. A license that is not
there is passed over. -/
def amendment (enforce : Bool) (l : License) (user : User) (now : Moment) : Command Unit := do
  let updated ← (Stamp.moment now).bind
  let w ← bindTerm l.grants
  let db ← MonadState.get
  let t ← table db
  checkParent enforce db
  let userId ← user.id.bind 1
  let provider ← l.provider.bind 2
  let print ← l.grants.print.bind 4
  let copy ← l.grants.copy.bind 5
  let contentId ← l.contentId.bind 8
  let id ← l.id.bind 9
  let row : LicenseRow := {
    id, userId, provider, updated, print, copy, start := w.start, stop := w.stop, contentId }
  let (t, n) ← ofExecuted (t.modify row .amend LicenseRow.checkNulls)
  modify fun db => { db with license := some t }
  if n ≠ 0 then ofExecuted (LicenseTable.checkReference (references enforce db) row.convert)

def regrant (l : License) (now : Moment) : Command Nat := do
  let updated ← (Stamp.moment now).bind
  let w ← bindTerm l.grants
  let t ← table (← MonadState.get)
  let print ← l.grants.print.bind 1
  let copy ← l.grants.copy.bind 2
  let id ← l.id.bind 6
  let row : LicenseRow := { id, updated, print, copy, start := w.start, stop := w.stop }
  let (t, n) ← ofExecuted (t.modify row .regrant fun _ => .ok ())
  modify fun db => { db with license := some t }
  return n

def restatement (id status : Datum) : Command Unit := do
  let t ← table (← MonadState.get)
  let status ← status.bind 1
  let id ← id.bind 2
  let row : LicenseRow := { id, status }
  let (t, _) ← ofExecuted (t.modify row .restate fun _ => .ok ())
  modify fun db => { db with license := some t }

end LicenseStore

end RightsStore
