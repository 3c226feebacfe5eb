import RightsStore.Proofs.History

namespace RightsStore

open Failure (ofExecuted)

/-- A row is put into the table or merged into the row of its id, which keeps it. What `must` find
that row fails when there is none. -/
inductive LicenseChange
  | insert
  | merge (f : (old new : LicenseRow) → LicenseRow) (keeps : ∀ old new, (f old new).id = old.id)
    (check : Option (List ContentRow) → LicenseRow → Executed Unit) (must : Bool)

namespace LicenseChange

def apply (references : Option (List ContentRow)) (t : LicenseTable) (r : LicenseRow) :
    LicenseChange → Except Failure LicenseTable
  | .insert => ofExecuted (t.enter references r)
  | .merge f _ check must => do
    let (t, n) ← ofExecuted (t.modify r f (check references))
    if must && n = 0 then .error (.notFound .license) else return t

def effect (c : LicenseChange) (r : LicenseRow) (rows : Rows LicenseRow) : Rows LicenseRow :=
  match c with
  | .insert => rows.add r.convert
  | .merge f _ _ _ => rows.map (LicenseTable.merged r.convert f)

theorem apply_eq_ok {c : LicenseChange} {references : Option (List ContentRow)}
    {t t' : LicenseTable} {r : LicenseRow} (h : c.apply references t r = .ok t') :
    t' = { t with entries := c.effect r t.entries } := by
  cases c with
  | insert =>
    obtain ⟨-, -, -, rfl⟩ := LicenseTable.enter_eq_ok (ofExecuted_eq_ok.1 h)
    rfl
  | merge f keeps check must =>
    obtain ⟨⟨t'', n⟩, hmodify, h⟩ := exists_of_bind_eq_ok h
    obtain ⟨hchanged, -⟩ := LicenseTable.modify_eq_ok (ofExecuted_eq_ok.1 hmodify)
    dsimp only at h
    split at h
    · cases h
    · cases h
      exact hchanged

end LicenseChange

/-- The inner action of `bound` is what is bound after the table has been found. -/
structure LicenseWrite where
  bound : Except Failure (Except Failure LicenseRow)
  refers : Bool := false
  change : LicenseChange

namespace LicenseWrite

def result (w : LicenseWrite) (enforce : Bool) (db : Database) : Except Failure Database := do
  let rest ← w.bound
  let t ← LicenseStore.table db
  LicenseStore.checkParent (enforce && w.refers) db
  let r ← rest
  let t ← w.change.apply (LicenseStore.references enforce db) t r
  return { db with license := some t }

def row (w : LicenseWrite) : Except Failure LicenseRow := do (← w.bound)

def adding (l : License) : LicenseWrite where
  bound := do
    let some user := l.user | .error .noUser
    let issued ← l.issued.bind
    let w ← LicenseStore.bindTerm l.grants
    return do
      let id ← l.id.bind 1
      let userId ← user.id.bind 2
      let provider ← l.provider.bind 3
      let print ← l.grants.print.bind 6
      let copy ← l.grants.copy.bind 7
      let contentId ← l.contentId.bind 10
      let status ← l.storedStatus.bind 11
      return {
        id, userId, provider, issued, print, copy, start := w.start, stop := w.stop, contentId
        status }
  refers := true
  change := .insert

def updating (l : License) (clock : Moment) : LicenseWrite where
  bound := do
    let some user := l.user | .error .noUser
    let updated ← (Stamp.moment (← LicenseStore.now clock)).bind
    let w ← LicenseStore.bindTerm l.grants
    return do
      let userId ← user.id.bind 1
      let provider ← l.provider.bind 2
      let print ← l.grants.print.bind 4
      let copy ← l.grants.copy.bind 5
      let contentId ← l.contentId.bind 8
      let id ← l.id.bind 9
      return {
        id, userId, provider, updated, print, copy, start := w.start, stop := w.stop, contentId }
  refers := true
  change := .merge .amend (fun _ _ => rfl) (fun references r => do
    r.checkNulls
    LicenseTable.checkReference references r) false

def updatingRights (l : License) (clock : Moment) : LicenseWrite where
  bound := do
    let updated ← (Stamp.moment (← LicenseStore.now clock)).bind
    let w ← LicenseStore.bindTerm l.grants
    return do
      let print ← l.grants.print.bind 1
      let copy ← l.grants.copy.bind 2
      let id ← l.id.bind 6
      return { id, updated, print, copy, start := w.start, stop := w.stop }
  change := .merge .regrant (fun _ _ => rfl) (fun _ _ => .ok ()) true

def settingStatus (id status : Datum) : LicenseWrite where
  bound := .ok do
    let status ← status.bind 1
    let id ← id.bind 2
    return { id, status }
  change := .merge .restate (fun _ _ => rfl) (fun _ _ => .ok ()) false

theorem result_eq_ok {w : LicenseWrite} {enforce : Bool} {db db' : Database}
    (h : w.result enforce db = .ok db') : ∃ t r, db.license = some t ∧ w.row = .ok r ∧
      db' = { db with license := some { t with entries := w.change.effect r t.entries } } := by
  obtain ⟨rest, hrest, h⟩ := exists_of_bind_eq_ok h
  obtain ⟨t, ht, h⟩ := exists_of_bind_eq_ok h
  obtain ⟨-, h⟩ := bind_unit_eq_ok.1 h
  obtain ⟨r, hr, h⟩ := exists_of_bind_eq_ok h
  obtain ⟨t', ht', h⟩ := exists_of_bind_eq_ok h
  cases h
  refine ⟨t, r, LicenseStore.table_eq_ok.1 ht, ?_, ?_⟩
  · rw [row, hrest]
    exact hr
  · rw [LicenseChange.apply_eq_ok ht']

theorem error_or_bind (p : Prop) [Decidable p] (e : ε) (a : α) (f : α → Except ε β) :
    ((if p then .error e else pure a) >>= f) = if p then .error e else f a := by
  split
  · rfl
  · rfl

theorem add_eq_result (enforce : Bool) (db : Database) (l : License) :
    LicenseStore.add enforce db l = (adding l).result enforce db := by
  rw [LicenseStore.add_eq, result, adding, Bool.and_true]
  cases l.user with
  | none => rfl
  | some user => simp only [bind_assoc, pure_bind, LicenseChange.apply]

theorem update_eq_result (enforce : Bool) (db : Database) (l : License) (clock : Moment) :
    LicenseStore.update enforce db l clock = (updating l clock).result enforce db := by
  rw [LicenseStore.update_eq, result, updating, Bool.and_true]
  cases l.user with
  | none => rfl
  | some user =>
    simp only [bind_assoc, pure_bind, LicenseChange.apply, Bool.false_and, Bool.false_eq_true,
      if_false]

theorem updateRights_bind (enforce : Bool) (db : Database) (l : License) (clock : Moment) :
    (updatingRights l clock).result enforce db = do
      let (db, n) ← LicenseStore.updateRights db l clock
      if n = 0 then .error (.notFound .license) else return db := by
  simp only [LicenseStore.updateRights_eq, result, updatingRights, bind_assoc, pure_bind,
    LicenseChange.apply, Bool.true_and, decide_eq_true_eq, Bool.and_false, LicenseStore.checkParent,
    Bool.false_and, Bool.false_eq_true, if_false, ok_bind, error_or_bind]

theorem setStatus_eq_result (enforce : Bool) (db : Database) (id status : Datum) :
    LicenseStore.setStatus db id status = (settingStatus id status).result enforce db := by
  simp only [LicenseStore.setStatus_eq, result, settingStatus, bind_assoc, pure_bind,
    LicenseChange.apply, Bool.false_and, Bool.and_false, LicenseStore.checkParent,
    Bool.false_eq_true, if_false, ok_bind]

section Bound

variable {l : License} {clock : Moment} {rest : Except Failure LicenseRow} {r : LicenseRow}

theorem bound_adding (h : (adding l).bound = .ok rest) (hr : rest = .ok r) : l.id.Bound r.id := by
  rw [adding] at h
  dsimp only at h
  split at h
  · obtain ⟨issued, -, h⟩ := exists_of_bind_eq_ok h
    obtain ⟨term, -, h⟩ := exists_of_bind_eq_ok h
    cases h
    obtain ⟨id, hid, hr⟩ := exists_of_bind_eq_ok hr
    obtain ⟨userId, -, hr⟩ := exists_of_bind_eq_ok hr
    obtain ⟨provider, -, hr⟩ := exists_of_bind_eq_ok hr
    obtain ⟨print, -, hr⟩ := exists_of_bind_eq_ok hr
    obtain ⟨copy, -, hr⟩ := exists_of_bind_eq_ok hr
    obtain ⟨contentId, -, hr⟩ := exists_of_bind_eq_ok hr
    obtain ⟨status, -, hr⟩ := exists_of_bind_eq_ok hr
    cases hr
    exact ⟨_, hid⟩
  · cases h

theorem bound_updating (h : (updating l clock).bound = .ok rest) (hr : rest = .ok r) :
    l.id.Bound r.id := by
  rw [updating] at h
  dsimp only at h
  split at h
  · obtain ⟨now, -, h⟩ := exists_of_bind_eq_ok h
    obtain ⟨updated, -, h⟩ := exists_of_bind_eq_ok h
    obtain ⟨term, -, h⟩ := exists_of_bind_eq_ok h
    cases h
    obtain ⟨userId, -, hr⟩ := exists_of_bind_eq_ok hr
    obtain ⟨provider, -, hr⟩ := exists_of_bind_eq_ok hr
    obtain ⟨print, -, hr⟩ := exists_of_bind_eq_ok hr
    obtain ⟨copy, -, hr⟩ := exists_of_bind_eq_ok hr
    obtain ⟨contentId, -, hr⟩ := exists_of_bind_eq_ok hr
    obtain ⟨id, hid, hr⟩ := exists_of_bind_eq_ok hr
    cases hr
    exact ⟨_, hid⟩
  · cases h

theorem bound_updatingRights (h : (updatingRights l clock).bound = .ok rest) (hr : rest = .ok r) :
    l.id.Bound r.id := by
  obtain ⟨now, -, h⟩ := exists_of_bind_eq_ok h
  obtain ⟨updated, -, h⟩ := exists_of_bind_eq_ok h
  obtain ⟨term, -, h⟩ := exists_of_bind_eq_ok h
  cases h
  obtain ⟨print, -, hr⟩ := exists_of_bind_eq_ok hr
  obtain ⟨copy, -, hr⟩ := exists_of_bind_eq_ok hr
  obtain ⟨id, hid, hr⟩ := exists_of_bind_eq_ok hr
  cases hr
  exact ⟨_, hid⟩

end Bound

end LicenseWrite

def Step.licenseWrite? : Step → Option (LicenseWrite × Event)
  | .addLicense l => some (.adding l, .licenseAdded l.id l.contentId)
  | .updateLicense l clock => some (.updating l clock, .licenseUpdated l.id)
  | .updateRights l clock => some (.updatingRights l clock, .rightsUpdated l.id)
  | .setStatus id status => some (.settingStatus id status, .statusSet id status)
  | _ => none

theorem Step.bound_of_row {x : Step} {w : LicenseWrite} {e : Event}
    (h : x.licenseWrite? = some (w, e)) {i : Datum} (hi : x.license? = some i) {r : LicenseRow}
    (hrow : w.row = .ok r) : i.Bound r.id := by
  obtain ⟨rest, hrest, hr⟩ := exists_of_bind_eq_ok hrow
  cases x with
  | addLicense l =>
    cases h
    cases hi
    exact LicenseWrite.bound_adding hrest hr
  | updateLicense l clock =>
    cases h
    cases hi
    exact LicenseWrite.bound_updating hrest hr
  | updateRights l clock =>
    cases h
    cases hi
    exact LicenseWrite.bound_updatingRights hrest hr
  | setStatus id status =>
    cases h
    cases hi
    cases hrest
    obtain ⟨status', -, hr⟩ := exists_of_bind_eq_ok hr
    obtain ⟨id', hid, hr⟩ := exists_of_bind_eq_ok hr
    cases hr
    exact ⟨_, hid⟩
  | _ => cases h

namespace Session

theorem rewriting_updateRights (s : Session) (l : License) (clock : Moment) (e : Event) :
    s.rewriting (LicenseStore.updateRights s.database l clock) e =
      s.writing ((LicenseWrite.updatingRights l clock).result s.enforce s.database) e := by
  rw [LicenseWrite.updateRights_bind]
  cases h : LicenseStore.updateRights s.database l clock with
  | error f => rfl
  | ok p =>
    obtain ⟨db, n⟩ := p
    cases n with
    | zero =>
      cases LicenseStore.updateRights_zero h
      rfl
    | succ n => rfl

theorem step_licenseWrite (s : Session) {x : Step} {w : LicenseWrite} {e : Event}
    (h : x.licenseWrite? = some (w, e)) :
    s.step x = s.onStore .license (s.writing (w.result s.enforce s.database) e) := by
  rw [step_eq]
  cases x with
  | addLicense l =>
    cases h
    rw [← LicenseWrite.add_eq_result]
    rfl
  | updateLicense l clock =>
    cases h
    rw [← LicenseWrite.update_eq_result]
    rfl
  | updateRights l clock =>
    cases h
    rw [← rewriting_updateRights]
    rfl
  | setStatus id status =>
    cases h
    rw [← LicenseWrite.setStatus_eq_result]
    rfl
  | _ => cases h

end Session

end RightsStore
