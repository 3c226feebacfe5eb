import RightsStore.Proofs.Frames
import RightsStore.Proofs.Writes

namespace RightsStore

def Reply.succeeded (r : Reply) : Bool := r.answer.isOk

def Step.writes : Step → Bool
  | .addContent _ => true
  | .updateContent _ => true
  | .addLicense _ => true
  | .updateLicense .. => true
  | .updateRights .. => true
  | .setStatus .. => true
  | _ => false

def Step.isRaw : Step → Bool
  | .insertRaw .. => true
  | _ => false

def Step.isFixture : Step → Bool
  | .prepare _ => true
  | _ => false

/-- All that a step but a raw insertion may do to a database, and whether it has succeeded then. -/
inductive Step.Effect (d : Dialect) (enforce : Bool) : Step → Bool → Database → Database → Prop
  | failed : Effect d enforce x false db db
  | read : x.writes = false → Effect d enforce x true db db
  | prepared : db'.licenseEntries = db.licenseEntries → Effect d enforce (.prepare f) ok db db'
  | opened : Effect d enforce (.openStore t) ok db (db.openAll d ts)
  | contentAdded : ContentIndex.add db c = .ok db' → Effect d enforce (.addContent c) true db db'
  | contentUpdated : ContentIndex.update db c = .ok db' →
      Effect d enforce (.updateContent c) true db db'
  | licenseAdded : LicenseStore.add enforce db l = .ok db' →
      Effect d enforce (.addLicense l) true db db'
  | licenseUpdated : LicenseStore.update enforce db l clock = .ok db' →
      Effect d enforce (.updateLicense l clock) true db db'
  | rightsUpdated : LicenseStore.updateRights db l clock = .ok (db', n + 1) →
      Effect d enforce (.updateRights l clock) true db db'
  | statusSet {id status : Datum} : LicenseStore.setStatus db id status = .ok db' →
      Effect d enforce (.setStatus id status) true db db'

namespace Session

variable (s : Session)

@[simp] theorem onStore_reading_snd (t : Table) (x : Except Failure Answer) :
    (s.onStore t (s.reading x)).2 = s := by
  rw [onStore]
  split <;> rfl

@[simp] theorem onStore_listing_snd (t : Table) (rows : Except Failure (List ρ))
    (read : ρ → Except Failure Item) (answer : List Item → Except Failure Answer) :
    (s.onStore t (s.listing rows read answer)).2 = s := by
  rw [onStore]
  split
  · cases rows <;> rfl
  · rfl

theorem onStore_writing (t : Table) (x : Except Failure Database) (e : Event) :
    (∃ f, s.onStore t (s.writing x e) = (⟨.error f, []⟩, s)) ∨
      ∃ db, x = .ok db ∧ s.onStore t (s.writing x e) = (⟨.ok .done, [e]⟩, s.withDatabase db) := by
  rw [onStore]
  split
  · cases x with
    | error f => exact .inl ⟨f, rfl⟩
    | ok db => exact .inr ⟨db, rfl, rfl⟩
  · exact .inl ⟨_, rfl⟩

theorem onStore_rewriting (t : Table) {x : Except Failure (Database × Nat)} (e : Event)
    (hzero : ∀ db, x = .ok (db, 0) → db = s.database) :
    (∃ f, s.onStore t (s.rewriting x e) = (⟨.error f, []⟩, s)) ∨
      ∃ db n, x = .ok (db, n + 1) ∧
        s.onStore t (s.rewriting x e) = (⟨.ok .done, [e]⟩, s.withDatabase db) := by
  rw [onStore]
  split
  · cases x with
    | error f => exact .inl ⟨f, rfl⟩
    | ok p =>
      obtain ⟨db, n⟩ := p
      cases n with
      | zero =>
        cases hzero db rfl
        exact .inl ⟨_, rfl⟩
      | succ n => exact .inr ⟨db, n, rfl, rfl⟩
  · exact .inl ⟨_, rfl⟩

theorem step_updateRights (l : License) (clock : Moment) :
    (∃ f, s.step (.updateRights l clock) = (⟨.error f, []⟩, s)) ∨
      ∃ db n, LicenseStore.updateRights s.database l clock = .ok (db, n + 1) ∧
        s.step (.updateRights l clock) =
          (⟨.ok .done, [.rightsUpdated l.id]⟩, s.withDatabase db) := by
  rw [step_eq]
  exact s.onStore_rewriting .license _ fun _ => LicenseStore.updateRights_zero

theorem prepare_license (f : Fixture) :
    (s.prepare f).2.database.license = s.database.license ∧
      (s.prepare f).2.database.draws = s.database.draws := by
  cases f with
  | legacyContent rows =>
    simp only [prepare, Database.addLegacyContent]
    split
    · exact ⟨rfl, rfl⟩
    · split <;> exact ⟨rfl, rfl⟩
  | other index =>
    simp only [prepare, Database.addOther]
    split
    · exact ⟨rfl, rfl⟩
    · rename_i db heq
      split at heq
      · cases heq
      · cases heq
        simp only [Database.indexOther]
        split <;> exact ⟨rfl, rfl⟩

theorem licenseEntries_prepare (f : Fixture) :
    (s.prepare f).2.database.licenseEntries = s.database.licenseEntries := by
  obtain ⟨hlicense, hdraws⟩ := s.prepare_license f
  rw [Database.licenseEntries, hlicense, hdraws, Database.licenseEntries]

theorem step_effect {x : Step} (hx : x.isRaw = false) :
    x.Effect s.dialect s.enforce (s.step x).1.succeeded s.database (s.step x).2.database := by
  -- steps that leave the database as it is, whatever they answer
  have quiet {y : Step} (hy : y.writes = false) (h : (s.outcome y).2.database = s.database) :
      y.Effect s.dialect s.enforce (s.outcome y).1.succeeded s.database
        (s.outcome y).2.database := by
    rw [h]
    cases (s.outcome y).1.succeeded with
    | false => exact .failed
    | true => exact .read hy
  have onStream {y : Step} {name : String} (hy : y.writes = false) (h : y.stream? = some name) :
      y.Effect s.dialect s.enforce (s.outcome y).1.succeeded s.database
        (s.outcome y).2.database := by
    apply quiet hy
    rw [← step_eq]
    exact (onlyStream_step h).database
  -- steps that put a new database in its place when they succeed
  have write {y : Step} {t : Table} {z : Except Failure Database} {e : Event}
      (hstep : s.outcome y = s.onStore t (s.writing z e))
      (h : ∀ db, z = .ok db → y.Effect s.dialect s.enforce true s.database db) :
      y.Effect s.dialect s.enforce (s.outcome y).1.succeeded s.database
        (s.outcome y).2.database := by
    rw [hstep]
    rcases s.onStore_writing t z e with ⟨f, hf⟩ | ⟨db, hdb, hok⟩
    · rw [hf]
      exact .failed
    · rw [hok]
      exact h db hdb
  rw [step_eq]
  cases x with
  | prepare f => exact .prepared (s.licenseEntries_prepare f)
  | insertRaw table values => cases hx
  | tables => exact quiet rfl rfl
  | columns table => exact quiet rfl rfl
  | openStore t =>
    obtain ⟨ts, hts⟩ := (s.opens_openStore t).database
    simp only [outcome, hts]
    exact .opened
  | dialect => exact quiet rfl rfl
  | connections => exact quiet rfl rfl
  | getContent id => exact quiet rfl (congrArg _ (s.onStore_reading_snd ..))
  | addContent c => exact write rfl fun _ => .contentAdded
  | updateContent c => exact write rfl fun _ => .contentUpdated
  | listContents => exact quiet rfl (congrArg _ (s.onStore_listing_snd ..))
  | getLicense id => exact quiet rfl (congrArg _ (s.onStore_reading_snd ..))
  | addLicense l => exact write rfl fun _ => .licenseAdded
  | updateLicense l clock => exact write rfl fun _ => .licenseUpdated
  | updateRights l clock =>
    rw [← step_eq]
    rcases s.step_updateRights l clock with ⟨f, hf⟩ | ⟨db, n, hdb, hok⟩
    · rw [hf]
      exact .failed
    · rw [hok]
      exact .rightsUpdated hdb
  | setStatus id status => exact write rfl fun _ => .statusSet
  | listLicenses contentId size number =>
    exact quiet rfl (congrArg _ (s.onStore_listing_snd ..))
  | listAllLicenses size number => exact quiet rfl (congrArg _ (s.onStore_listing_snd ..))
  | dumpContents => exact quiet rfl (congrArg _ (s.onStore_listing_snd ..))
  | dumpLicenses size number => exact quiet rfl (congrArg _ (s.onStore_listing_snd ..))
  | openStream name q => exact onStream rfl rfl
  | next name => exact onStream rfl rfl
  | drain name => exact onStream rfl rfl
  | close name => exact onStream rfl rfl
  | scope name take abort => exact onStream rfl rfl
  | state name => exact onStream rfl rfl
  | undescribed store f =>
    cases store with
    | none => exact quiet rfl rfl
    | some t => exact quiet rfl (congrArg _ (s.onStore_reading_snd ..))

end Session

end RightsStore
