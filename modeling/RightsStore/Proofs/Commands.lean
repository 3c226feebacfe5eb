import RightsStore.Proofs.Statements
import RightsStore.Stores

namespace RightsStore

open Failure (ofExecuted)

namespace Command

variable {α β γ : Type}

def outcome (x : Command α) (out : α → Database → β) (db : Database) : Except Failure β :=
  match x db with
  | .ok a db => .ok (out a db)
  | .error f _ => .error f

theorem outcome_pure (a : α) (out : α → Database → β) (db : Database) :
    outcome (pure a) out db = .ok (out a db) := rfl

theorem outcome_lift (x : Except Failure α) (out : α → Database → β) (db : Database) :
    outcome (liftM x) out db = x >>= fun a => .ok (out a db) := by
  cases x <;> rfl

theorem outcome_lift_bind (x : Except Failure α) (f : α → Command γ) (out : γ → Database → β)
    (db : Database) : outcome (liftM x >>= f) out db = x >>= fun a => outcome (f a) out db := by
  cases x <;> rfl

theorem outcome_get_bind (f : Database → Command α) (out : α → Database → β) (db : Database) :
    outcome (MonadState.get >>= f) out db = outcome (f db) out db := rfl

theorem outcome_modify (f : Database → Database) (out : Unit → Database → β) (db : Database) :
    outcome (modify f) out db = .ok (out () (f db)) := rfl

theorem outcome_modify_bind (f : Database → Database) (x : Unit → Command α)
    (out : α → Database → β) (db : Database) :
    outcome (modify f >>= x) out db = outcome (x ()) out (f db) := rfl

theorem outcome_ite (p : Prop) [Decidable p] (x y : Command α) (out : α → Database → β)
    (db : Database) :
    outcome (if p then x else y) out db = if p then outcome x out db else outcome y out db := by
  split <;> rfl

def result (x : Command Unit) : Database → Except Failure Database := outcome x fun _ db => db

def counted (x : Command Nat) : Database → Except Failure (Database × Nat) :=
  outcome x fun n db => (db, n)

end Command

theorem ofExecuted_bind (x : Executed α) (f : α → Executed β) :
    ofExecuted (x >>= f) = ofExecuted x >>= fun a => ofExecuted (f a) := by
  cases x <;> rfl

namespace LicenseTable

/-- An insertion of a row that refers to one of these contents, where references are followed. -/
def enter (references : Option (List ContentRow)) (t : LicenseTable) (r : LicenseRow) :
    Executed LicenseTable := do
  let t ← t.insert r
  checkReference references r.convert
  return t

theorem enter_eq_ok {references : Option (List ContentRow)} {t t' : LicenseTable} {r : LicenseRow}
    (h : t.enter references r = .ok t') :
    r.convert.checkNulls = .ok () ∧
      (∀ old ∈ t.rows, r.convert.id.matches old.id = false) ∧
      checkReference references r.convert = .ok () ∧
      t' = { t with entries := t.entries.add r.convert } := by
  obtain ⟨t'', hinsert, h⟩ := exists_of_bind_eq_ok h
  obtain ⟨hreference, h⟩ := bind_unit_eq_ok.1 h
  cases h
  obtain ⟨hnulls, hfresh, rfl⟩ := insert_eq_ok hinsert
  exact ⟨hnulls, hfresh, hreference, rfl⟩

/-- Which content an amended row refers to is seen from the new values, so the reference may be
followed when the row has been written. -/
theorem modify_amend (references : Option (List ContentRow)) (t : LicenseTable) (r : LicenseRow)
    (f : LicenseTable → β) :
    (do
      let (t, _) ← ofExecuted (t.modify r .amend fun r => do
        r.checkNulls
        checkReference references r)
      return f t : Except Failure β) = (do
    let (t, n) ← ofExecuted (t.modify r .amend LicenseRow.checkNulls)
    if n ≠ 0 then
      ofExecuted (checkReference references r.convert)
      return f t
    else return f t) := by
  rw [modify, modify]
  cases t.rows.find? (r.convert.id.matches ·.id) with
  | none => rfl
  | some old =>
    have hsame : checkReference references (old.amend r.convert) =
        checkReference references r.convert := rfl
    simp only [hsame]
    cases (old.amend r.convert).checkNulls with
    | error e => rfl
    | ok _ => cases checkReference references r.convert <;> rfl

end LicenseTable

namespace ContentIndex

def get (db : Database) (id : Datum) : Except Failure Content := do readFound (← find db id)

def add (db : Database) (c : Content) : Except Failure Database := (insertion c).result db

def update (db : Database) (c : Content) : Except Failure Database := (replacement c).result db

theorem add_eq (db : Database) (c : Content) : add db c = (do
    let key ← c.key.bindKey
    let t ← table db (.unknownColumn "content" "type")
    let t ← ofExecuted (t.insert (← bindInsertion c key))
    return { db with content := some t }) := by
  rw [add, Command.result, insertion]
  simp only [Command.outcome_lift_bind, Command.outcome_get_bind, Command.outcome_modify]
  rfl

theorem update_eq (db : Database) (c : Content) : update db c = (do
    let key ← c.key.bindKey
    let t ← table db noType
    let t ← ofExecuted (t.update (← bindUpdate c key))
    return { db with content := some t }) := by
  rw [update, Command.result, replacement]
  simp only [Command.outcome_lift_bind, Command.outcome_get_bind, Command.outcome_modify]
  rfl

end ContentIndex

namespace LicenseStore

def get (db : Database) (id : Datum) : Except Failure License := do readFound (← find db id)

def list (db : Database) (contentId size number : Datum) : Except Failure (List LicenseRow) := do
  listPage contentId (← Page.of size number) db

def listAll (db : Database) (size number : Datum) : Except Failure (List LicenseRow) := do
  listAllPage (← Page.of size number) db

def add (enforce : Bool) (db : Database) (l : License) : Except Failure Database := do
  let user ← l.requireUser
  (insertion enforce l user).result db

def update (enforce : Bool) (db : Database) (l : License) (clock : Moment) :
    Except Failure Database := do
  let user ← l.requireUser
  let now ← now clock
  (amendment enforce l user now).result db

def updateRights (db : Database) (l : License) (clock : Moment) :
    Except Failure (Database × Nat) := do
  let now ← now clock
  (regrant l now).counted db

def setStatus (db : Database) (id status : Datum) : Except Failure Database :=
  (restatement id status).result db

theorem add_eq (enforce : Bool) (db : Database) (l : License) : add enforce db l = (do
    let some user := l.user | .error .noUser
    let issued ← l.issued.bind
    let w ← bindTerm l.grants
    let t ← table db
    checkParent enforce db
    let id ← l.id.bind 1
    let userId ← user.id.bind 2
    let provider ← l.provider.bind 3
    let print ← l.grants.print.bind 6
    let copy ← l.grants.copy.bind 7
    let contentId ← l.contentId.bind 10
    let status ← l.storedStatus.bind 11
    let row : LicenseRow := {
      id, userId, provider, issued, print, copy, start := w.start, stop := w.stop, contentId
      status }
    let t ← ofExecuted (t.enter (references enforce db) row)
    return { db with license := some t }) := by
  rw [add, License.requireUser]
  cases l.user with
  | none => rfl
  | some user =>
    simp only [ok_bind, Command.result, insertion, Command.outcome_lift_bind,
      Command.outcome_get_bind, Command.outcome_modify_bind, Command.outcome_lift,
      LicenseTable.enter, ofExecuted_bind, bind_assoc]
    rfl

theorem update_eq (enforce : Bool) (db : Database) (l : License) (clock : Moment) :
    update enforce db l clock = (do
    let some user := l.user | .error .noUser
    let updated ← (Stamp.moment (← now clock)).bind
    let w ← bindTerm l.grants
    let t ← table db
    checkParent enforce db
    let userId ← user.id.bind 1
    let provider ← l.provider.bind 2
    let print ← l.grants.print.bind 4
    let copy ← l.grants.copy.bind 5
    let contentId ← l.contentId.bind 8
    let id ← l.id.bind 9
    let row : LicenseRow := {
      id, userId, provider, updated, print, copy, start := w.start, stop := w.stop, contentId }
    let check := fun r => do
      r.checkNulls
      LicenseTable.checkReference (references enforce db) r
    let (t, _) ← ofExecuted (t.modify row .amend check)
    return { db with license := some t }) := by
  rw [update, License.requireUser]
  cases l.user with
  | none => rfl
  | some user =>
    simp only [ok_bind, Command.result, amendment, Command.outcome_lift_bind,
      Command.outcome_get_bind, Command.outcome_modify_bind, Command.outcome_lift,
      Command.outcome_ite, Command.outcome_pure,
      LicenseTable.modify_amend _ _ _ fun t => { db with license := some t }]
    rfl

theorem updateRights_eq (db : Database) (l : License) (clock : Moment) :
    updateRights db l clock = (do
    let updated ← (Stamp.moment (← now clock)).bind
    let w ← bindTerm l.grants
    let t ← table db
    let print ← l.grants.print.bind 1
    let copy ← l.grants.copy.bind 2
    let id ← l.id.bind 6
    let row : LicenseRow := { id, updated, print, copy, start := w.start, stop := w.stop }
    let (t, n) ← ofExecuted (t.modify row .regrant fun _ => .ok ())
    return ({ db with license := some t }, n)) := by
  simp only [updateRights, Command.counted, regrant, Command.outcome_lift_bind,
    Command.outcome_get_bind, Command.outcome_modify_bind, Command.outcome_pure]
  rfl

theorem setStatus_eq (db : Database) (id status : Datum) : setStatus db id status = (do
    let t ← table db
    let status ← status.bind 1
    let id ← id.bind 2
    let row : LicenseRow := { id, status }
    let (t, _) ← ofExecuted (t.modify row .restate fun _ => .ok ())
    return { db with license := some t }) := by
  simp only [setStatus, Command.result, restatement, Command.outcome_lift_bind,
    Command.outcome_get_bind, Command.outcome_modify]
  rfl

end LicenseStore

end RightsStore
