import RightsStore.Proofs.LicenseWrites

namespace RightsStore

open Failure (ofExecuted)

namespace Step

def refers : Step → Bool
  | .addLicense _ => true
  | .updateLicense .. => true
  | _ => false

def store? : Step → Option Table
  | .getContent _ => some .content
  | .addContent _ => some .content
  | .updateContent _ => some .content
  | .listContents => some .content
  | .dumpContents => some .content
  | .getLicense _ => some .license
  | .addLicense _ => some .license
  | .updateLicense .. => some .license
  | .updateRights .. => some .license
  | .setStatus .. => some .license
  | .listLicenses .. => some .license
  | .listAllLicenses .. => some .license
  | .dumpLicenses .. => some .license
  | .openStream _ .contents => some .content
  | .openStream _ (.licenses ..) => some .license
  | .openStream _ (.allLicenses ..) => some .license
  | .undescribed store _ => store
  | _ => none

end Step

structure FailsOnly (P : ε → Prop) (x : Except ε α) : Prop where
  of_error : ∀ e, x = .error e → P e

namespace FailsOnly

variable {P Q : ε → Prop} {x : Except ε α}

theorem ok (a : α) : FailsOnly P (.ok a) := ⟨nofun⟩

theorem error {e : ε} (h : P e) : FailsOnly P (.error e : Except ε α) := by
  refine ⟨fun e' he => ?_⟩
  cases he
  exact h

theorem imp (h : FailsOnly P x) (hPQ : ∀ e, P e → Q e) : FailsOnly Q x :=
  ⟨fun e he => hPQ e (h.of_error e he)⟩

theorem bind {f : α → Except ε β} (hx : FailsOnly P x)
    (hf : ∀ a, x = .ok a → FailsOnly P (f a)) : FailsOnly P (x >>= f) := by
  cases x with
  | error e => exact .error (hx.of_error e rfl)
  | ok a => exact hf a rfl

theorem map (hx : FailsOnly P x) (f : α → β) : FailsOnly P (x.map f) := by
  cases x with
  | error e => exact .error (hx.of_error e rfl)
  | ok a => exact .ok (f a)

theorem mapM {f : α → Except ε β} (h : ∀ a, FailsOnly P (f a)) (as : List α) :
    FailsOnly P (as.mapM f) := by
  induction as with
  | nil => exact .ok _
  | cons a as ih =>
    rw [List.mapM_cons]
    exact .bind (h a) fun _ _ => .bind ih fun _ _ => .ok _

theorem ofExecuted {P : Failure → Prop} {x : Executed α}
    (hx : FailsOnly (fun r => P (.refused r)) x) : FailsOnly P (Failure.ofExecuted x) := by
  cases x with
  | error r => exact .error (hx.of_error r rfl)
  | ok a => exact .ok a

end FailsOnly

def Refusal.isLocal : Refusal → Bool
  | .missingTable _ => false
  | .danglingReference => false
  | _ => true

def Failure.isLocal : Failure → Bool
  | .refused r => r.isLocal
  | _ => true

abbrev FailsLocally (x : Except Failure α) : Prop := FailsOnly (·.isLocal = true) x

section Values

theorem Datum.bind_local (d : Datum) (k : Nat) : FailsLocally (d.bind k) := by
  unfold Datum.bind
  split
  · split
    · exact .ok _
    · exact .error rfl
  · exact .ok _
  · exact .ok _
  · exact .ok _
  · exact .error rfl
  · exact .ok _

theorem Datum.bindKey_local (d : Datum) : FailsLocally d.bindKey := by
  unfold bindKey
  split
  · exact .ok _
  · exact .ok _
  · exact .error rfl

theorem Stamp.bind_local (s : Stamp) : FailsLocally s.bind := by
  unfold Stamp.bind
  split
  · exact .ok _
  · exact .ok _
  · exact .error rfl

theorem Cell.readKey_local (c : Cell) : FailsLocally c.readKey := by
  unfold readKey
  split
  · exact .ok _
  · exact .ok _
  · split
    · exact .error rfl
    · split
      · exact .error rfl
      · split
        · exact .error rfl
        · exact .ok _
  · exact .error rfl
  · exact .error rfl

theorem Cell.readStamp_local (c : Cell) : FailsLocally c.readStamp := by
  unfold readStamp
  split
  · exact .ok _
  · split
    · exact .error rfl
    · split
      · exact .ok _
      · exact .error rfl
  · exact .error rfl

theorem ContentRow.read_local (r : ContentRow) : FailsLocally r.read :=
  .bind r.key.readKey_local fun _ _ => .ok _

theorem LicenseRow.read_local (r : LicenseRow) : FailsLocally r.read :=
  .bind r.issued.readStamp_local fun _ _ => .bind r.updated.readStamp_local fun _ _ =>
    .bind r.start.readStamp_local fun _ _ => .bind r.stop.readStamp_local fun _ _ => .ok _

theorem Page.of_local (size number : Datum) : FailsLocally (Page.of size number) := by
  unfold Page.of
  split
  · exact .ok _
  · exact .error rfl

theorem Page.bind_local (p : Page) (k : Nat) : FailsLocally (p.bind k) :=
  .bind (p.limit.bind_local _) fun _ _ => .bind (p.offset.bind_local _) fun _ _ => .ok _

theorem Window.whole_local (c : Cell) : FailsLocally (whole c) := by
  unfold whole
  split
  · exact .ok _
  · exact .error rfl

theorem Window.ofCells_local (limit offset : Cell) : FailsLocally (ofCells limit offset) := by
  refine .bind (whole_local limit) fun _ _ => ?_
  split
  · exact .ok _
  · exact .bind (whole_local offset) fun _ _ => .ok _

theorem LicenseStore.now_local (clock : Moment) : FailsLocally (now clock) := by
  unfold now
  split
  · exact .ok _
  · exact .error rfl

theorem LicenseStore.bindTerm_local (g : Rights) : FailsLocally (bindTerm g) :=
  .bind g.start.bind_local fun _ _ => .bind g.stop.bind_local fun _ _ => .ok _

end Values

section Statements

theorem require_local (t : Table) (column : String) (c : Cell) :
    FailsOnly (·.isLocal = true) (require t column c) := by
  unfold require
  split
  · exact .error rfl
  · exact .ok _

theorem ContentRow.checkNulls_local (r : ContentRow) : FailsOnly (·.isLocal = true) r.checkNulls :=
  .bind (require_local ..) fun _ _ => .bind (require_local ..) fun _ _ => require_local ..

theorem LicenseRow.checkNulls_local (r : LicenseRow) : FailsOnly (·.isLocal = true) r.checkNulls :=
  .bind (require_local ..) fun _ _ => .bind (require_local ..) fun _ _ =>
    .bind (require_local ..) fun _ _ => require_local ..

theorem askedNumber_local (c : Cell) : FailsOnly (·.isLocal = true) (askedNumber c) := by
  unfold askedNumber
  split
  · exact .ok _
  · exact .ok _
  · exact .error rfl

theorem Rows.checkNumber_local (t : Rows ρ) (table : String) (number : Option Int) :
    FailsOnly (·.isLocal = true) (t.checkNumber table number) := by
  cases number with
  | none => exact .ok _
  | some n =>
    unfold checkNumber
    dsimp only
    split
    · exact .error rfl
    · exact .ok _

theorem ContentTable.insertNumbered_local (t : ContentTable) (number : Cell) (r : ContentRow) :
    FailsOnly (·.isLocal = true) (t.insertNumbered number r) := by
  refine .bind (askedNumber_local number) fun n _ =>
    .bind (r.convert t.layout).checkNulls_local fun _ _ =>
      .bind (t.entries.checkNumber_local "content" n) fun _ _ => ?_
  split
  · exact .error rfl
  · exact .ok _

theorem ContentTable.update_local (t : ContentTable) (r : ContentRow) :
    FailsOnly (·.isLocal = true) (t.update r) := by
  unfold update
  dsimp only
  split
  · exact .bind (r.convert t.layout).checkNulls_local fun _ _ => .ok _
  · exact .ok _

def Refusal.MayReject (references : Option (List ContentRow)) (r : Refusal) : Prop :=
  r.isLocal = true ∨ references.isSome = true ∧ r = .danglingReference

variable {references : Option (List ContentRow)}

theorem LicenseTable.checkReference_mayReject (r : LicenseRow) :
    FailsOnly (Refusal.MayReject references) (checkReference references r) := by
  unfold checkReference
  split
  · exact .ok _
  · split
    · exact .ok _
    · exact .error (.inr ⟨rfl, rfl⟩)

theorem LicenseTable.insertNumbered_local (t : LicenseTable) (number : Cell) (r : LicenseRow) :
    FailsOnly (·.isLocal = true) (t.insertNumbered number r) := by
  refine .bind (askedNumber_local number) fun n _ => .bind r.convert.checkNulls_local fun _ _ =>
    .bind (t.entries.checkNumber_local "license" n) fun _ _ => ?_
  split
  · exact .error rfl
  · exact .ok _

theorem LicenseTable.enter_mayReject (t : LicenseTable) (r : LicenseRow) :
    FailsOnly (Refusal.MayReject references) (t.enter references r) :=
  .bind ((t.insertNumbered_local .null r).imp fun _ => .inl) fun _ _ =>
    .bind (checkReference_mayReject r.convert) fun _ _ => .ok _

theorem LicenseTable.modify_failsOnly {P : Refusal → Prop} {check : LicenseRow → Executed Unit}
    (hcheck : ∀ r, FailsOnly P (check r)) (t : LicenseTable) (new : LicenseRow)
    (merge : (old new : LicenseRow) → LicenseRow) : FailsOnly P (t.modify new merge check) := by
  unfold modify
  dsimp only
  split
  · exact .ok _
  · exact .bind (hcheck _) fun _ _ => .ok _

end Statements

/-- What a statement on the table `t` may fail for, and what one that `refers` to contents may fail
for beyond that. -/
inductive Failure.Fits (db : Database) (t : Table) (refers : Bool) : Failure → Prop
  | own : f.isLocal = true → Fits db t refers f
  | missing : db.has t = false → Fits db t refers (.refused (.missingTable t.name))
  | parent : refers = true → db.has .content = false →
      Fits db t refers (.refused (.missingTable "main.content"))
  | dangling : refers = true → Fits db t refers (.refused .danglingReference)

variable {db : Database} {t : Table} {refers : Bool}

theorem Failure.Fits.refused {r : Refusal} (h : r.isLocal = true) : Fits db t refers (.refused r) :=
  .own h

theorem FailsOnly.fits {x : Except Failure α} (h : FailsLocally x) :
    FailsOnly (Failure.Fits db t refers) x :=
  h.imp fun _ => .own

theorem FailsOnly.fits_ofExecuted {x : Executed α} (h : FailsOnly (·.isLocal = true) x) :
    FailsOnly (Failure.Fits db t refers) (Failure.ofExecuted x) :=
  .ofExecuted (h.imp fun _ => .refused)

namespace ContentIndex

theorem table_fits {missing : Refusal} (hmissing : missing.isLocal = true) :
    FailsOnly (Failure.Fits db .content refers) (table db missing) := by
  unfold table
  split
  · rename_i hnone
    exact .error (.missing (by rw [Database.has, hnone]; rfl))
  · split
    · exact .ok _
    · exact .error (.own hmissing)

theorem bindRest_local (c : Content) (key : Cell) (k : Nat) : FailsLocally (bindRest c key k) :=
  .bind (c.location.bind_local _) fun _ _ => .bind (c.length.bind_local _) fun _ _ =>
    .bind (c.sha256.bind_local _) fun _ _ => .bind (c.storedType.bind_local _) fun _ _ => .ok _

theorem readFound_local (found : Option ContentRow) : FailsLocally (readFound found) := by
  cases found with
  | none => exact .error rfl
  | some r => exact r.read_local

theorem get_fits (id : Datum) : FailsOnly (Failure.Fits db .content refers) (get db id) :=
  .bind (.bind (table_fits rfl) fun _ _ => .bind (id.bind_local 1).fits fun _ _ => .ok _)
    fun found _ => (readFound_local found).fits

theorem add_fits (c : Content) : FailsOnly (Failure.Fits db .content refers) (add db c) := by
  rw [add_eq]
  exact .bind c.key.bindKey_local.fits fun _ _ => .bind (table_fits rfl) fun t _ =>
    .bind (.fits (.bind (c.id.bind_local 1) fun _ _ => .bind (bindRest_local ..) fun _ _ => .ok _))
      fun _ _ => .bind (t.insertNumbered_local .null _).fits_ofExecuted fun _ _ => .ok _

theorem update_fits (c : Content) : FailsOnly (Failure.Fits db .content refers) (update db c) := by
  rw [update_eq]
  exact .bind c.key.bindKey_local.fits fun _ _ => .bind (table_fits rfl) fun t _ =>
    .bind (.fits (.bind (bindRest_local ..) fun _ _ => .bind (c.id.bind_local 6) fun _ _ => .ok _))
      fun _ _ => .bind (t.update_local _).fits_ofExecuted fun _ _ => .ok _

theorem list_fits : FailsOnly (Failure.Fits db .content refers) (list db) :=
  .bind (table_fits rfl) fun _ _ => .ok _

end ContentIndex

namespace LicenseStore

theorem table_fits : FailsOnly (Failure.Fits db .license refers) (table db) := by
  unfold table
  split
  · rename_i hnone
    exact .error (.missing (by rw [Database.has, hnone]; rfl))
  · exact .ok _

theorem checkParent_fits : FailsOnly (Failure.Fits db t refers) (checkParent refers db) := by
  unfold checkParent
  split
  · rename_i h
    rw [Bool.and_eq_true] at h
    refine .error (.parent h.1 ?_)
    rw [Database.has, Option.isNone_iff_eq_none.1 h.2]
    rfl
  · exact .ok _

theorem readFound_local (found : Option LicenseRow) : FailsLocally (readFound found) := by
  cases found with
  | none => exact .error rfl
  | some r => exact r.read_local

theorem get_fits (id : Datum) : FailsOnly (Failure.Fits db .license refers) (get db id) :=
  .bind (.bind table_fits fun _ _ => .bind (id.bind_local 1).fits fun _ _ => .ok _)
    fun found _ => (readFound_local found).fits

theorem list_fits (contentId size number : Datum) :
    FailsOnly (Failure.Fits db .license refers) (list db contentId size number) :=
  .bind (Page.of_local ..).fits fun p _ => .bind table_fits fun _ _ =>
    .bind (contentId.bind_local 1).fits fun _ _ => .bind (p.bind_local 2).fits fun _ _ =>
      .bind (Window.ofCells_local ..).fits fun _ _ => .ok _

theorem listAll_fits (size number : Datum) :
    FailsOnly (Failure.Fits db .license refers) (listAll db size number) :=
  .bind (Page.of_local ..).fits fun p _ => .bind table_fits fun _ _ =>
    .bind (p.bind_local 1).fits fun _ _ => .bind (Window.ofCells_local ..).fits fun _ _ => .ok _

end LicenseStore

theorem LicenseChange.apply_merge_fits {f : (old new : LicenseRow) → LicenseRow}
    {keeps : ∀ old new, (f old new).id = old.id}
    {check : Option (List ContentRow) → LicenseRow → Executed Unit} {must : Bool}
    {references : Option (List ContentRow)} {table : LicenseTable} {new : LicenseRow}
    (hcheck : ∀ r, FailsOnly (fun e => Failure.Fits db t refers (.refused e)) (check references r)) :
    FailsOnly (Failure.Fits db t refers)
      ((LicenseChange.merge f keeps check must).apply references table new) := by
  refine .bind (.ofExecuted (LicenseTable.modify_failsOnly hcheck ..)) fun p _ => ?_
  dsimp only
  split
  · exact .error (.own rfl)
  · exact .ok _

namespace LicenseWrite

theorem row_adding_local (l : License) : FailsLocally (adding l).row := by
  unfold row adding
  dsimp only
  cases l.user with
  | none => exact .error rfl
  | some user =>
    simp only [bind_assoc, pure_bind]
    exact .bind l.issued.bind_local fun _ _ => .bind (LicenseStore.bindTerm_local _) fun _ _ =>
      .bind (l.id.bind_local 1) fun _ _ => .bind (user.id.bind_local 2) fun _ _ =>
      .bind (l.provider.bind_local 3) fun _ _ => .bind (l.grants.print.bind_local 6) fun _ _ =>
      .bind (l.grants.copy.bind_local 7) fun _ _ => .bind (l.contentId.bind_local 10) fun _ _ =>
      .bind (l.storedStatus.bind_local 11) fun _ _ => .ok _

theorem row_updating_local (l : License) (clock : Moment) : FailsLocally (updating l clock).row := by
  unfold row updating
  dsimp only
  cases l.user with
  | none => exact .error rfl
  | some user =>
    simp only [bind_assoc, pure_bind]
    exact .bind (LicenseStore.now_local clock) fun _ _ => .bind (Stamp.bind_local _) fun _ _ =>
      .bind (LicenseStore.bindTerm_local _) fun _ _ => .bind (user.id.bind_local 1) fun _ _ =>
      .bind (l.provider.bind_local 2) fun _ _ => .bind (l.grants.print.bind_local 4) fun _ _ =>
      .bind (l.grants.copy.bind_local 5) fun _ _ => .bind (l.contentId.bind_local 8) fun _ _ =>
      .bind (l.id.bind_local 9) fun _ _ => .ok _

theorem row_updatingRights_local (l : License) (clock : Moment) :
    FailsLocally (updatingRights l clock).row := by
  unfold row updatingRights
  simp only [bind_assoc, pure_bind]
  exact .bind (LicenseStore.now_local clock) fun _ _ => .bind (Stamp.bind_local _) fun _ _ =>
    .bind (LicenseStore.bindTerm_local _) fun _ _ => .bind (l.grants.print.bind_local 1) fun _ _ =>
    .bind (l.grants.copy.bind_local 2) fun _ _ => .bind (l.id.bind_local 6) fun _ _ => .ok _

theorem row_settingStatus_local (id status : Datum) : FailsLocally (settingStatus id status).row :=
  .bind (.ok _) fun _ h => by
    cases h
    exact .bind (status.bind_local 1) fun _ _ => .bind (id.bind_local 2) fun _ _ => .ok _

end LicenseWrite

namespace Step

variable {x : Step} {w : LicenseWrite} {e : Event}

theorem refers_of_licenseWrite? (h : x.licenseWrite? = some (w, e)) : w.refers = x.refers := by
  cases x with
  | addLicense l => cases h; rfl
  | updateLicense l clock => cases h; rfl
  | updateRights l clock => cases h; rfl
  | setStatus id status => cases h; rfl
  | _ => cases h

theorem row_local (h : x.licenseWrite? = some (w, e)) : FailsLocally w.row := by
  cases x with
  | addLicense l => cases h; exact LicenseWrite.row_adding_local l
  | updateLicense l clock => cases h; exact LicenseWrite.row_updating_local l clock
  | updateRights l clock => cases h; exact LicenseWrite.row_updatingRights_local l clock
  | setStatus id status => cases h; exact LicenseWrite.row_settingStatus_local id status
  | _ => cases h

theorem apply_fits (h : x.licenseWrite? = some (w, e)) (enforce : Bool) (t : LicenseTable)
    (r : LicenseRow) : FailsOnly (Failure.Fits db .license (x.refers && enforce))
      (w.change.apply (LicenseStore.references enforce db) t r) := by
  -- what a step that refers may be refused for, and what another one may be
  have referring : ∀ r, Refusal.MayReject (LicenseStore.references enforce db) r →
      Failure.Fits db .license (true && enforce) (.refused r) := by
    rintro r (hlocal | ⟨hsome, rfl⟩)
    · exact .own hlocal
    · cases enforce with
      | false => cases hsome
      | true => exact .dangling rfl
  cases x with
  | addLicense l =>
    cases h
    exact .ofExecuted ((LicenseTable.enter_mayReject t r).imp referring)
  | updateLicense l clock =>
    cases h
    refine LicenseChange.apply_merge_fits fun r => ?_
    exact .bind (r.checkNulls_local.imp fun _ => .refused)
      fun _ _ => (LicenseTable.checkReference_mayReject r).imp referring
  | updateRights l clock =>
    cases h
    exact LicenseChange.apply_merge_fits fun _ => .ok _
  | setStatus id status =>
    cases h
    exact LicenseChange.apply_merge_fits fun _ => .ok _
  | _ => cases h

theorem result_fits (h : x.licenseWrite? = some (w, e)) (enforce : Bool) :
    FailsOnly (Failure.Fits db .license (x.refers && enforce)) (w.result enforce db) := by
  have hrow := row_local h
  refine .bind ⟨fun f hf => ?_⟩ fun rest hrest => ?_
  · refine .own (hrow.of_error f ?_)
    rw [LicenseWrite.row, hf]
    rfl
  · rw [LicenseWrite.row, hrest] at hrow
    refine .bind LicenseStore.table_fits fun t _ => ?_
    rw [refers_of_licenseWrite? h, Bool.and_comm enforce]
    exact .bind LicenseStore.checkParent_fits fun _ _ => .bind (.fits hrow) fun r _ =>
      .bind (apply_fits h enforce t r) fun _ _ => .ok _

end Step

theorem Stream.remaining_local {rest : List (Except Failure Item)}
    (h : ∀ x ∈ rest, FailsLocally x) : FailsLocally (remaining rest) := by
  induction rest with
  | nil => exact .ok _
  | cons x rest ih =>
    rw [List.forall_mem_cons] at h
    cases x with
    | error f => exact .error (h.1.of_error f rfl)
    | ok a => exact .bind (ih h.2) fun _ _ => .ok _

namespace Cursor

def IsLocal : Cursor → Prop
  | .closed => True
  | .reading rest => ∀ x ∈ rest, FailsLocally x

theorem isLocal_ofRows {read : ρ → Except Failure Item} (hread : ∀ r, FailsLocally (read r))
    (rows : List ρ) : (ofRows read rows).IsLocal := by
  intro x hx
  obtain ⟨r, -, rfl⟩ := List.mem_map.1 hx
  exact hread r

variable {c : Cursor}

theorem IsLocal.drain (h : c.IsLocal) : FailsLocally c.drain := by
  cases c with
  | closed => exact .ok _
  | reading rest => exact Stream.remaining_local h

end Cursor

namespace Session

variable {s : Session}

theorem contentItem_local (r : ContentRow) : FailsLocally (contentItem r) := r.read_local.map _

theorem licenseItem_local (r : LicenseRow) : FailsLocally (licenseItem r) := r.read_local.map _

theorem answerItems_local (items : List Item) : FailsLocally (answerItems items) := .ok _

theorem answerDump_local (schema : Schema) (items : List Item) :
    FailsLocally (answerDump schema items) := by
  unfold answerDump
  split
  · exact .ok _
  · exact .error rfl

def FitsOn (s : Session) (t : Table) (refers : Bool) (f : Failure) : Prop :=
  f = .notOpen t ∨ s.isOpen t = true ∧ f.Fits s.database t refers

theorem onStore_fits {run : Reply × Session}
    (h : FailsOnly (Failure.Fits s.database t refers) run.1.answer) :
    FailsOnly (s.FitsOn t refers) (s.onStore t run).1.answer := by
  rw [onStore]
  split
  · rename_i hopen
    exact h.imp fun _ hf => .inr ⟨hopen, hf⟩
  · exact .error (.inl rfl)

theorem writing_failsOnly {P : Failure → Prop} {x : Except Failure Database} (h : FailsOnly P x)
    (e : Event) : FailsOnly P (s.writing x e).1.answer := by
  cases x with
  | error f => exact .error (h.of_error f rfl)
  | ok db => exact .ok _

theorem listing_fits {rows : Except Failure (List ρ)} {read : ρ → Except Failure Item}
    {answer : List Item → Except Failure Answer} (hrows : FailsOnly (Failure.Fits db t refers) rows)
    (hread : ∀ r, FailsLocally (read r)) (hanswer : ∀ items, FailsLocally (answer items)) :
    FailsOnly (Failure.Fits db t refers) (s.listing rows read answer).1.answer := by
  cases rows with
  | error f => exact .error (hrows.of_error f rfl)
  | ok rows =>
    exact .fits (.bind (Cursor.isLocal_ofRows hread rows).drain fun items _ => hanswer items)

theorem openStream_fails {P : Failure → Prop} {rows : Except Failure (List ρ)} (h : FailsOnly P rows)
    (name : String) (read : ρ → Except Failure Item) :
    FailsOnly P (s.openStream name rows read).1.answer := by
  cases rows with
  | error f =>
    rw [openStream_error]
    exact .error (h.of_error f rfl)
  | ok rows =>
    rw [openStream_ok]
    exact .ok _

theorem step_fits {x : Step} (hx : x.store? = some t) :
    FailsOnly (s.FitsOn t (x.refers && s.enforce)) (s.step x).1.answer := by
  have write {w : LicenseWrite} {e : Event} (h : x.licenseWrite? = some (w, e)) :
      FailsOnly (s.FitsOn .license (x.refers && s.enforce)) (s.outcome x).1.answer := by
    rw [← step_eq, s.step_licenseWrite h]
    exact onStore_fits (writing_failsOnly (Step.result_fits h s.enforce) e)
  rw [step_eq]
  cases x with
  | getContent id => cases hx; exact onStore_fits ((ContentIndex.get_fits id).map _)
  | addContent c => cases hx; exact onStore_fits (writing_failsOnly (ContentIndex.add_fits c) _)
  | updateContent c =>
    cases hx
    exact onStore_fits (writing_failsOnly (ContentIndex.update_fits c) _)
  | listContents =>
    cases hx
    exact onStore_fits (listing_fits ContentIndex.list_fits contentItem_local answerItems_local)
  | dumpContents =>
    cases hx
    exact onStore_fits (listing_fits ContentIndex.list_fits contentItem_local (answerDump_local _))
  | getLicense id => cases hx; exact onStore_fits ((LicenseStore.get_fits id).map _)
  | addLicense l => cases hx; exact write rfl
  | updateLicense l clock => cases hx; exact write rfl
  | updateRights l clock => cases hx; exact write rfl
  | setStatus id status => cases hx; exact write rfl
  | listLicenses contentId size number =>
    cases hx
    exact onStore_fits
      (listing_fits (LicenseStore.list_fits ..) licenseItem_local answerItems_local)
  | listAllLicenses size number =>
    cases hx
    exact onStore_fits
      (listing_fits (LicenseStore.listAll_fits ..) licenseItem_local answerItems_local)
  | dumpLicenses size number =>
    cases hx
    exact onStore_fits
      (listing_fits (LicenseStore.listAll_fits ..) licenseItem_local (answerDump_local _))
  | openStream name q =>
    cases q with
    | contents => cases hx; exact onStore_fits (openStream_fails ContentIndex.list_fits ..)
    | licenses contentId size number =>
      cases hx
      exact onStore_fits (openStream_fails (LicenseStore.list_fits ..) ..)
    | allLicenses size number =>
      cases hx
      exact onStore_fits (openStream_fails (LicenseStore.listAll_fits ..) ..)
    | numbers values failOn => cases hx
    | missing => cases hx
  | undescribed store f =>
    cases store with
    | none => cases hx
    | some t' =>
      cases hx
      exact onStore_fits (.error (.own rfl))
  | _ => cases hx

end Session

end RightsStore
