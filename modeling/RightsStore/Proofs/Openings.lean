import RightsStore.Opening
import RightsStore.Proofs.Programs

namespace RightsStore

structure Opened where
  database : Database
  log : List Event
  refusal : Option Refusal
  deriving DecidableEq

namespace Opening

def migrate (db : Database) (m : Migration) : Database × Event :=
  match db.addColumn m.column with
  | .ok db => (db, .migrated m.sql)
  | .error r => (db, .migrationSkipped r)

def migrateAll (db : Database) : List Migration → Database × List Event
  | [] => (db, [])
  | m :: rest =>
    let (db, e) := migrate db m
    let (db, es) := migrateAll db rest
    (db, e :: es)

end Opening

def Database.open (db : Database) (d : Dialect) (t : Table) : Opened :=
  match db.create d t with
  | .error r => ⟨db, [.creationFailed t r], some r⟩
  | .ok db =>
    let (db, log) := Opening.migrateAll db (Opening.migrations d t)
    ⟨db, log ++ Opening.prepared d t, none⟩

namespace Program

open Opening

variable {w : World}

theorem forM_say (es : List Event) (w : World) :
    es.forM say w = .ok ⟨⟩ { w with log := w.log ++ es } := by
  induction es generalizing w with
  | nil => simp [pure, EStateM.pure]
  | cons e es ih =>
    have hsay : say e w = .ok () (w.say e) := rfl
    rw [List.forM_eq_forM] at ih ⊢
    rw [List.forM_cons, bind_of_ok hsay, ih]
    simp [World.say]

def executed (x : Executed Database) (db : Database) : EStateM.Result Failure Database Unit :=
  match x with
  | .ok db' => .ok () db'
  | .error r => .error (.refused r) db

theorem creation_eq (d : Dialect) (t : Table) (db : Database) :
    creation d t db = executed (db.create d t) db := by
  have hget : (MonadState.get : Command Database) db = .ok db db := rfl
  rw [creation, bind_of_ok hget]
  cases db.create d t <;> rfl

theorem addition_eq (m : Migration) (db : Database) :
    addition m db = executed (db.addColumn m.column) db := by
  have hget : (MonadState.get : Command Database) db = .ok db db := rfl
  rw [addition, bind_of_ok hget]
  cases db.addColumn m.column <;> rfl

theorem migrate_eq (m : Migration) (hw : w.Idle) :
    Program.migrate m w =
      .ok () { w with
        database := (Opening.migrate w.database m).1
        log := w.log ++ [(Opening.migrate w.database m).2] } := by
  have htransaction := transaction_execute (addition m) hw
  rw [addition_eq] at htransaction
  rw [Program.migrate, Opening.migrate]
  cases h : w.database.addColumn m.column with
  | ok db =>
    rw [h] at htransaction
    refine tryCatch_of_ok ?_ _
    rw [bind_of_ok htransaction]
    rfl
  | error r =>
    rw [h] at htransaction
    rw [tryCatch_of_error (bind_of_error htransaction _)]
    rfl

theorem forM_migrate (ms : List Migration) (hw : w.Idle) :
    ms.forM Program.migrate w =
      .ok ⟨⟩ { w with
        database := (migrateAll w.database ms).1, log := w.log ++ (migrateAll w.database ms).2 } := by
  induction ms generalizing w with
  | nil => simp [pure, EStateM.pure, migrateAll]
  | cons m ms ih =>
    rw [List.forM_eq_forM] at ih ⊢
    rw [List.forM_cons, bind_of_ok (migrate_eq m hw)]
    have hidle : World.Idle { w with
        database := (Opening.migrate w.database m).1
        log := w.log ++ [(Opening.migrate w.database m).2] } := hw
    rw [ih hidle]
    simp [migrateAll]

def opened (o : Opened) (w : World) : EStateM.Result Failure World Unit :=
  match o.refusal with
  | none => .ok () { w with database := o.database, log := w.log ++ o.log }
  | some r => .error (.refused r) { w with database := o.database, log := w.log ++ o.log }

theorem openTable_eq (d : Dialect) (t : Table) (hw : w.Idle) :
    openTable d t w = opened (w.database.open d t) w := by
  have htransaction := transaction_execute (creation d t) hw
  rw [creation_eq] at htransaction
  rw [openTable, Database.open]
  cases h : w.database.create d t with
  | error r =>
    rw [h] at htransaction
    refine bind_of_error ?_ _
    rw [tryCatch_of_error htransaction]
    rfl
  | ok db =>
    rw [h] at htransaction
    have hidle : World.Idle { w with database := db } := hw
    rw [bind_of_ok (tryCatch_of_ok htransaction _), bind_of_ok (forM_migrate _ hidle), forM_say]
    simp [opened]

end Program

namespace Database

def contentEntries (db : Database) : Rows ContentRow :=
  (db.content.map (·.entries)).getD { draws := db.draws.content }

def licenseEntries (db : Database) : Rows LicenseRow :=
  (db.license.map (·.entries)).getD { draws := db.draws.license }

theorem contentRows_eq (db : Database) : db.contentRows = db.contentEntries.toList := by
  simp only [contentRows, contentEntries]
  cases db.content <;> rfl

theorem licenseRows_eq (db : Database) : db.licenseRows = db.licenseEntries.toList := by
  simp only [licenseRows, licenseEntries]
  cases db.license <;> rfl

theorem contentEntries_eq {db : Database} {t : ContentTable} (h : db.content = some t) :
    db.contentEntries = t.entries := by
  rw [contentEntries, h]
  rfl

theorem licenseEntries_eq {db : Database} {t : LicenseTable} (h : db.license = some t) :
    db.licenseEntries = t.entries := by
  rw [licenseEntries, h]
  rfl

def HasType (db : Database) : Prop := ∀ t, db.content = some t → t.layout.hasType = true

theorem HasType.put {db : Database} (h : db.HasType) {t t' : ContentTable} (ht : db.content = some t)
    (hlayout : t'.layout = t.layout) : HasType { db with content := some t' } := by
  rintro _ ⟨⟩
  rw [hlayout]
  exact h t ht

/-- The same rows, in all tables that were there and perhaps in more. Contents that had no media
types may have them. -/
structure Grows (db db' : Database) : Prop where
  content : db.HasType → db'.contentEntries = db.contentEntries
  license : db'.licenseEntries = db.licenseEntries
  has : ∀ t, db.has t = true → db'.has t = true
  hasType : db.HasType → db'.HasType

theorem Grows.refl (db : Database) : db.Grows db :=
  ⟨fun _ => rfl, rfl, fun _ h => h, fun h => h⟩

theorem Grows.trans {a b c : Database} (h : a.Grows b) (h' : b.Grows c) : a.Grows c :=
  ⟨fun ha => (h'.content (h.hasType ha)).trans (h.content ha), h'.license.trans h.license,
    fun t ht => h'.has t (h.has t ht), fun ha => h'.hasType (h.hasType ha)⟩

theorem create_grows {db db' : Database} {d : Dialect} {t : Table} (h : db.create d t = .ok db') :
    db.Grows db' ∧ db'.has t = true := by
  unfold create at h
  split at h
  · rename_i hhas
    cases h
    exact ⟨.refl _, hhas⟩
  · rename_i hhas
    split at h
    · cases h
    · cases t with
      | content =>
        have hnone : db.content = none := by simpa [has] using hhas
        cases h
        refine ⟨⟨?_, rfl, ?_, ?_⟩, rfl⟩
        · simp [contentEntries, hnone]
        · intro t ht
          cases t with
          | content => rfl
          | license => exact ht
        · intro _ t ht
          cases ht
          rfl
      | license =>
        have hnone : db.license = none := by simpa [has] using hhas
        cases h
        refine ⟨⟨fun _ => rfl, ?_, ?_, fun h => h⟩, rfl⟩
        · simp [licenseEntries, hnone]
        · intro t ht
          cases t with
          | content => exact ht
          | license => rfl

theorem addColumn_of_hasType {db : Database} (h : db.HasType) (c : Column) :
    ∃ r, db.addColumn c = .error r := by
  unfold addColumn
  cases hcontent : db.content with
  | none => exact ⟨_, rfl⟩
  | some t => exact ⟨_, if_pos (h t hcontent)⟩

theorem addColumn_grows {db db' : Database} {c : Column} (h : db.addColumn c = .ok db') :
    db.Grows db' := by
  have hnot : ¬db.HasType := by
    intro htype
    obtain ⟨r, hr⟩ := addColumn_of_hasType htype c
    rw [hr] at h
    cases h
  unfold addColumn at h
  split at h
  · cases h
  · split at h
    · cases h
    · cases h
      refine ⟨fun htype => absurd htype hnot, rfl, ?_, fun htype => absurd htype hnot⟩
      intro t ht
      cases t with
      | content => rfl
      | license => exact ht

theorem migrate_grows (db : Database) (m : Migration) : db.Grows (Opening.migrate db m).1 := by
  unfold Opening.migrate
  split
  · rename_i db' h
    exact addColumn_grows h
  · exact .refl db

theorem migrateAll_grows (db : Database) (ms : List Migration) :
    db.Grows (Opening.migrateAll db ms).1 := by
  induction ms generalizing db with
  | nil => exact .refl db
  | cons m ms ih => exact (migrate_grows db m).trans (ih _)

theorem migrateAll_of_refused {db : Database} (h : ∀ c, ∃ r, db.addColumn c = .error r)
    (ms : List Migration) : (Opening.migrateAll db ms).1 = db := by
  induction ms with
  | nil => rfl
  | cons m ms ih =>
    obtain ⟨r, hr⟩ := h m.column
    simp only [Opening.migrateAll, Opening.migrate, hr]
    exact ih

theorem open_grows (db : Database) (d : Dialect) (t : Table) : db.Grows (db.open d t).database := by
  unfold Database.open
  split
  · exact .refl db
  · rename_i db' h
    exact (create_grows h).1.trans (migrateAll_grows ..)

theorem open_of_refusal {db : Database} {d : Dialect} {t : Table} {r : Refusal}
    (h : (db.open d t).refusal = some r) :
    (db.open d t).database = db ∧ (db.open d t).log = [.creationFailed t r] := by
  unfold Database.open at h ⊢
  split at h
  · cases h
    exact ⟨rfl, rfl⟩
  · cases h

theorem has_open_of_not_refused {db : Database} {d : Dialect} {t : Table}
    (h : (db.open d t).refusal = none) : (db.open d t).database.has t = true := by
  unfold Database.open at h ⊢
  split at h
  · cases h
  · rename_i db' hcreate
    exact (migrateAll_grows ..).has t (create_grows hcreate).2

def openAll (db : Database) (d : Dialect) (ts : List Table) : Database :=
  ts.foldl (fun db t => (db.open d t).database) db

theorem openAll_append (db : Database) (d : Dialect) (ts ts' : List Table) :
    db.openAll d (ts ++ ts') = (db.openAll d ts).openAll d ts' :=
  List.foldl_append

theorem openAll_grows (db : Database) (d : Dialect) (ts : List Table) :
    db.Grows (db.openAll d ts) := by
  induction ts generalizing db with
  | nil => exact .refl db
  | cons t ts ih => exact (db.open_grows d t).trans (ih _)

end Database

end RightsStore
