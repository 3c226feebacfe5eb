import RightsStore.Proofs.Integrity
import RightsStore.Proofs.LicenseWrites

/-!
Writes that do not depend on each other commute: neither sees what the other one does, so both
answer as they would alone, and the database ends the same.
-/

namespace RightsStore

open Failure (ofExecuted)

/-- Ids that name different rows, as the tables keep ids. Null names none. -/
def Datum.Apart (a b : Datum) : Prop :=
  ∀ c c' : Cell, a.Bound c → b.Bound c' →
    (Affinity.text.convert c).matches (Affinity.text.convert c') = false

theorem Datum.apart_text {a b : String} : (Datum.text a).Apart (.text b) ↔ a ≠ b := by
  constructor
  · rintro h rfl
    have hmatches := h _ _ ⟨0, rfl⟩ ⟨0, rfl⟩
    simp [Cell.matches, Affinity.convert] at hmatches
  · rintro h c c' ⟨k, hc⟩ ⟨k', hc'⟩
    cases hc
    cases hc'
    simpa [Cell.matches, Affinity.convert] using h

theorem Datum.Apart.symm {a b : Datum} (h : a.Apart b) : b.Apart a := by
  intro c c' hc hc'
  rw [Cell.matches_comm]
  exact h c' c hc' hc

namespace Rows

variable {ρ : Type}

theorem nextNumber_add (t : Rows ρ) (r r' : ρ) :
    (t.add r).nextNumber = (t.add r').nextNumber := by
  rw [← nextNumber_map (t.add r) fun _ => r, ← nextNumber_map (t.add r') fun _ => r, map_add, map_add]

theorem exchange_perm (t : Rows ρ) (m n : Int) (r r' : ρ) :
    ((t.insertAt m r).insertAt n r').toList.Perm ((t.insertAt m r').insertAt n r).toList := by
  have hboth (a b : ρ) : ((t.insertAt m a).insertAt n b).toList.Perm (b :: a :: t.toList) :=
    (toList_insertAt_perm ..).trans ((toList_insertAt_perm ..).cons b)
  exact (hboth r r').trans ((List.Perm.swap ..).trans (hboth r' r).symm)

theorem any_toList_add_of_not {t : Rows ρ} {p : ρ → Bool} {r : ρ} (h : p r = false) :
    (t.add r).toList.any p = t.toList.any p := by
  rw [Bool.eq_iff_iff, List.any_eq_true, List.any_eq_true]
  simp only [mem_toList_add, or_and_right, exists_or, exists_eq_left, h, Bool.false_eq_true,
    false_or]

theorem map_map_comm {t : Rows ρ} {f g : ρ → ρ} (h : ∀ r, f (g r) = g (f r)) :
    (t.map f).map g = (t.map g).map f := by
  simp only [map, List.map_map, Function.comp_def, h]

end Rows

def fate (x : Except ε α) : Except ε Unit := x.map fun _ => ()

theorem fate_bind_pure (x : Except ε α) (k : α → β) : fate (x >>= fun a => pure (k a)) = fate x := by
  cases x with
  | error e => rfl
  | ok a => rfl

def LicenseTable.mapEntries (h : Rows LicenseRow → Rows LicenseRow) (t : LicenseTable) :
    LicenseTable :=
  { t with entries := h t.entries }

theorem LicenseTable.id_merged {m : (old new : LicenseRow) → LicenseRow}
    (hkeeps : ∀ old new, (m old new).id = old.id) (new old : LicenseRow) :
    (merged new m old).id = old.id := by
  rw [merged]
  split
  · exact hkeeps old new
  · rfl

theorem LicenseTable.merged_comm {a b : LicenseRow} {m m' : (old new : LicenseRow) → LicenseRow}
    (hkeeps : ∀ old, (m old a).id = old.id) (hkeeps' : ∀ old, (m' old b).id = old.id)
    (hcomm : ∀ old : LicenseRow, a.id.matches old.id = true → b.id.matches old.id = true →
      m (m' old b) a = m' (m old a) b) (old : LicenseRow) :
    merged a m (merged b m' old) = merged b m' (merged a m old) := by
  cases ha : a.id.matches old.id with
  | true =>
    cases hb : b.id.matches old.id with
    | true => simp [merged, ha, hb, hkeeps, hkeeps', hcomm old ha hb]
    | false => simp [merged, ha, hb, hkeeps]
  | false =>
    cases hb : b.id.matches old.id with
    | true => simp [merged, ha, hb, hkeeps']
    | false => simp [merged, ha, hb]

namespace LicenseChange

/-- A change comes out the same whether the rows have been changed by `h` before or not. -/
def Undisturbed (c : LicenseChange) (r : LicenseRow) (h : Rows LicenseRow → Rows LicenseRow) :
    Prop :=
  ∀ references t, fate (c.apply references (t.mapEntries h) r) = fate (c.apply references t r)

variable {r : LicenseRow} {h : Rows LicenseRow → Rows LicenseRow}

theorem insert_undisturbed (hany : ∀ rows : Rows LicenseRow,
      (h rows).toList.any (r.convert.id.matches ·.id) =
        rows.toList.any (r.convert.id.matches ·.id)) : insert.Undisturbed r h := by
  intro references t
  have hany : (t.mapEntries h).rows.any (r.convert.id.matches ·.id) =
      t.rows.any (r.convert.id.matches ·.id) := hany t.entries
  simp only [apply, LicenseTable.enter, LicenseTable.insert, LicenseTable.insertNumbered,
    askedNumber_null, ok_bind, Rows.checkNumber_none, hany]
  cases r.convert.checkNulls with
  | error e => rfl
  | ok _ =>
    by_cases hdouble : t.rows.any (r.convert.id.matches ·.id) = true
    · simp only [ok_bind, if_pos hdouble]
    · simp only [ok_bind, if_neg hdouble]
      cases LicenseTable.checkReference references r.convert with
      | error e => rfl
      | ok _ => rfl

section Merge

variable {m : (old new : LicenseRow) → LicenseRow} {keeps : ∀ old new, (m old new).id = old.id}
  {check : Option (List ContentRow) → LicenseRow → Executed Unit} {must : Bool}

theorem merge_undisturbed {f : LicenseRow → LicenseRow}
    (hfind : ∀ rows : Rows LicenseRow, (h rows).toList.find? (r.convert.id.matches ·.id) =
      (rows.toList.find? (r.convert.id.matches ·.id)).map f)
    (hcheck : ∀ references old, r.convert.id.matches old.id = true →
      check references (m (f old) r.convert) = check references (m old r.convert)) :
    (merge m keeps check must).Undisturbed r h := by
  intro references t
  have hfind := hfind t.entries
  simp only [apply, LicenseTable.modify, LicenseTable.rows, LicenseTable.mapEntries] at hfind ⊢
  rw [hfind]
  cases hold : t.entries.toList.find? (r.convert.id.matches ·.id) with
  | none => cases must <;> rfl
  | some old =>
    have hmatches := List.find?_some hold
    simp only [Option.map_some, hcheck references old hmatches]
    cases check references (m old r.convert) with
    | error e => rfl
    | ok _ => cases must <;> rfl

theorem merge_undisturbed_by_merge {m' : (old new : LicenseRow) → LicenseRow} {new : LicenseRow}
    (hkeeps : ∀ old new, (m' old new).id = old.id)
    (hcheck : ∀ references old,
      check references (m (m' old new) r.convert) = check references (m old r.convert)) :
    (merge m keeps check must).Undisturbed r (·.map (LicenseTable.merged new m')) := by
  refine merge_undisturbed (f := LicenseTable.merged new m') ?_ ?_
  · intro rows
    refine Rows.find?_toList_map ?_
    intro old
    rw [LicenseTable.id_merged hkeeps]
  · intro references old _
    rw [LicenseTable.merged]
    split
    · exact hcheck references old
    · rfl

end Merge

def isInsert : LicenseChange → Bool
  | .insert => true
  | .merge .. => false

variable {c c' : LicenseChange} {r' : LicenseRow}

theorem merged_of_apart (hapart : r.convert.id.matches r'.convert.id = false)
    (m : (old new : LicenseRow) → LicenseRow) {old : LicenseRow}
    (hold : r.convert.id.matches old.id = true) : LicenseTable.merged r'.convert m old = old := by
  apply LicenseTable.merged_of_not
  rw [← (Cell.matches_iff.1 hold).2, Cell.matches_comm]
  exact hapart

theorem undisturbed_of_apart (hapart : r.convert.id.matches r'.convert.id = false) :
    c.Undisturbed r (c'.effect r') := by
  cases c' with
  | insert =>
    cases c with
    | insert =>
      refine insert_undisturbed ?_
      intro rows
      exact Rows.any_toList_add_of_not hapart
    | merge m keeps check must =>
      refine merge_undisturbed (f := id) ?_ fun _ _ _ => rfl
      intro rows
      rw [Option.map_id]
      exact Rows.find?_toList_add_of_not hapart
  | merge m' keeps' check' must' =>
    have hid := LicenseTable.id_merged keeps' r'.convert
    cases c with
    | insert =>
      refine insert_undisturbed ?_
      intro rows
      rw [effect, Rows.toList_map, List.any_map]
      simp only [Function.comp_def, hid]
    | merge m keeps check must =>
      refine merge_undisturbed (f := LicenseTable.merged r'.convert m') ?_ ?_
      · intro rows
        refine Rows.find?_toList_map ?_
        intro old
        rw [hid]
      · intro references old hold
        rw [merged_of_apart hapart m' hold]

theorem effect_comm_of_apart (hapart : r.convert.id.matches r'.convert.id = false)
    (hinsert : c.isInsert = false ∨ c'.isInsert = false) (rows : Rows LicenseRow) :
    c.effect r (c'.effect r' rows) = c'.effect r' (c.effect r rows) := by
  have hapart' : r'.convert.id.matches r.convert.id = false := by
    rw [Cell.matches_comm]
    exact hapart
  cases c with
  | insert =>
    cases c' with
    | insert => rcases hinsert with h | h <;> cases h
    | merge m' keeps' check' must' =>
      rw [effect, effect, effect, effect, Rows.map_add, LicenseTable.merged_of_not hapart']
  | merge m keeps check must =>
    cases c' with
    | insert =>
      rw [effect, effect, effect, effect, Rows.map_add, LicenseTable.merged_of_not hapart]
    | merge m' keeps' check' must' =>
      refine Rows.map_map_comm (LicenseTable.merged_comm (fun old => keeps' old _)
        (fun old => keeps old _) ?_)
      intro old hold hold'
      rw [← (Cell.matches_iff.1 hold).2, hapart] at hold'
      cases hold'

def SeesIds (c : LicenseChange) : Prop :=
  ∀ (contents contents' : List ContentRow) (t : LicenseTable) (r : LicenseRow),
    contents'.map (·.id) = contents.map (·.id) →
      c.apply (some contents') t r = c.apply (some contents) t r

theorem checkReference_of_ids {contents contents' : List ContentRow}
    (h : contents'.map (·.id) = contents.map (·.id)) (r : LicenseRow) :
    LicenseTable.checkReference (some contents') r =
      LicenseTable.checkReference (some contents) r := by
  have hany (cs : List ContentRow) : cs.any (r.contentId.matches ·.id) =
      (cs.map (·.id)).any (r.contentId.matches ·) := by
    rw [List.any_map]
    rfl
  rw [LicenseTable.checkReference, LicenseTable.checkReference, hany, hany, h]

end LicenseChange

namespace Database

def mapLicenses (h : Rows LicenseRow → Rows LicenseRow) (db : Database) : Database :=
  { db with license := db.license.map (.mapEntries h) }

def mapContents (h : ContentTable → ContentTable) (db : Database) : Database :=
  { db with content := db.content.map h }

theorem mapLicenses_comm {h k : Rows LicenseRow → Rows LicenseRow}
    (hcomm : ∀ rows, h (k rows) = k (h rows)) (db : Database) :
    mapLicenses h (mapLicenses k db) = mapLicenses k (mapLicenses h db) := by
  cases ht : db.license with
  | none => simp [mapLicenses, ht]
  | some t => simp [mapLicenses, ht, LicenseTable.mapEntries, hcomm]

end Database

open Database (mapLicenses mapContents)

def Makes (f : Database → Except Failure Database) (F : Database → Database) : Prop :=
  ∀ db db', f db = .ok db' → db' = F db

/-- A write comes out the same whether a database has been changed by `G` before or not. -/
def Undisturbed (f : Database → Except Failure Database) (G : Database → Database) : Prop :=
  ∀ db, fate (f (G db)) = fate (f db)

namespace LicenseWrite

variable {w w' : LicenseWrite} {enforce : Bool}

def effect (w : LicenseWrite) : Rows LicenseRow → Rows LicenseRow :=
  match w.row with
  | .ok r => w.change.effect r
  | .error _ => id

theorem effect_cases (w : LicenseWrite) :
    w.effect = id ∨ ∃ r, w.row = .ok r ∧ w.effect = w.change.effect r := by
  rw [effect]
  cases h : w.row with
  | error f => exact .inl rfl
  | ok r => exact .inr ⟨r, rfl, rfl⟩

theorem makes (w : LicenseWrite) (enforce : Bool) :
    Makes (w.result enforce) (mapLicenses w.effect) := by
  intro db db' h
  obtain ⟨t, r, ht, hr, rfl⟩ := result_eq_ok h
  rw [mapLicenses, ht, effect, hr]
  rfl

theorem undisturbed {G : Database → Database} {k : LicenseTable → LicenseTable}
    (hparent : ∀ db, LicenseStore.checkParent (enforce && w.refers) (G db) =
      LicenseStore.checkParent (enforce && w.refers) db)
    (htable : ∀ db, (G db).license = db.license.map k)
    (happly : ∀ db t r, w.row = .ok r →
      fate (w.change.apply (LicenseStore.references enforce (G db)) (k t) r) =
        fate (w.change.apply (LicenseStore.references enforce db) t r)) :
    Undisturbed (w.result enforce) G := by
  intro db
  cases hbound : w.bound with
  | error f => simp only [result, hbound]; rfl
  | ok rest =>
    have htable := htable db
    cases ht : db.license with
    | none =>
      rw [ht, Option.map_none] at htable
      simp only [result, hbound, ok_bind, LicenseStore.table, ht, htable]
      rfl
    | some t =>
      rw [ht, Option.map_some] at htable
      simp only [result, hbound, ok_bind, LicenseStore.table, ht, htable, hparent]
      cases LicenseStore.checkParent (enforce && w.refers) db with
      | error f => rfl
      | ok _ =>
        cases hr : rest with
        | error f => rfl
        | ok r =>
          have hrow : w.row = .ok r := by rw [row, hbound, ← hr]; rfl
          simpa only [ok_bind, fate_bind_pure] using happly db t r hrow

theorem undisturbed_by_licenses {h : Rows LicenseRow → Rows LicenseRow}
    (hchange : ∀ r, w.row = .ok r → w.change.Undisturbed r h) :
    Undisturbed (w.result enforce) (mapLicenses h) :=
  undisturbed (fun _ => rfl) (fun _ => rfl) fun _ t r hr => hchange r hr _ t

theorem undisturbed_by_contents {k : ContentTable → ContentTable}
    (hids : ∀ t : ContentTable, (k t).rows.map (·.id) = t.rows.map (·.id))
    (hsees : w.change.SeesIds) : Undisturbed (w.result enforce) (mapContents k) := by
  refine undisturbed (k := id) ?_ (fun db => (congrFun Option.map_id db.license).symm) ?_
  · intro db
    rw [LicenseStore.checkParent, LicenseStore.checkParent, mapContents, Option.isNone_map]
  · intro db t r _
    have hcontents : (mapContents k db).contentRows.map (·.id) = db.contentRows.map (·.id) := by
      cases ht : db.content with
      | none => simp [Database.contentRows, mapContents, ht]
      | some t => simp [Database.contentRows, mapContents, ht, hids]
    cases enforce with
    | false => rfl
    | true => exact congrArg fate (hsees _ _ t r hcontents)

theorem undisturbed_of_apart {i j : Datum} (hi : ∀ r, w.row = .ok r → i.Bound r.id)
    (hj : ∀ r, w'.row = .ok r → j.Bound r.id) (hapart : i.Apart j) :
    Undisturbed (w.result enforce) (mapLicenses w'.effect) := by
  refine undisturbed_by_licenses ?_
  intro r hr
  rcases w'.effect_cases with h | ⟨r', hr', h⟩
  · rw [h]
    exact fun _ _ => rfl
  · rw [h]
    exact LicenseChange.undisturbed_of_apart (hapart _ _ (hi r hr) (hj r' hr'))

theorem effect_comm_of_apart {i j : Datum} (hi : ∀ r, w.row = .ok r → i.Bound r.id)
    (hj : ∀ r, w'.row = .ok r → j.Bound r.id) (hapart : i.Apart j)
    (hinsert : w.change.isInsert = false ∨ w'.change.isInsert = false) (rows : Rows LicenseRow) :
    w.effect (w'.effect rows) = w'.effect (w.effect rows) := by
  rcases w.effect_cases with h | ⟨r, hr, h⟩
  · rw [h]
    rfl
  · rcases w'.effect_cases with h' | ⟨r', hr', h'⟩
    · rw [h']
      rfl
    · rw [h, h']
      exact LicenseChange.effect_comm_of_apart (hapart _ _ (hi r hr) (hj r' hr')) hinsert rows

/-- Two writes that do not disturb each other and lead to the same rows, even of one license. -/
structure Compatible (w w' : LicenseWrite) : Prop where
  first : ∀ enforce, Undisturbed (w.result enforce) (mapLicenses w'.effect)
  second : ∀ enforce, Undisturbed (w'.result enforce) (mapLicenses w.effect)
  comm : ∀ rows, w.effect (w'.effect rows) = w'.effect (w.effect rows)

theorem compatible_settingStatus {m : (old new : LicenseRow) → LicenseRow}
    {keeps : ∀ old new, (m old new).id = old.id}
    {check : Option (List ContentRow) → LicenseRow → Executed Unit} {must : Bool}
    (hw : w.change = .merge m keeps check must)
    (hcheck : ∀ references (old new status : LicenseRow),
      check references (m (old.restate status) new) = check references (m old new))
    (hcomm : ∀ old new status : LicenseRow, m (old.restate status) new = (m old new).restate status)
    (id status : Datum) : (settingStatus id status).Compatible w := by
  have hcases := (settingStatus id status).effect_cases
  refine ⟨?_, ?_, ?_⟩
  · intro enforce
    refine undisturbed_by_licenses ?_
    intro r hr
    rcases w.effect_cases with h | ⟨r', -, h⟩
    · rw [h]
      exact fun _ _ => rfl
    · rw [h, hw]
      exact LicenseChange.merge_undisturbed_by_merge keeps fun _ _ => rfl
  · intro enforce
    refine undisturbed_by_licenses ?_
    intro r hr
    rw [hw]
    rcases hcases with h | ⟨r', -, h⟩
    · rw [h]
      exact fun _ _ => rfl
    · rw [h]
      exact LicenseChange.merge_undisturbed_by_merge (fun _ _ => rfl)
        fun references old => hcheck references old _ _
  · intro rows
    rcases hcases with h | ⟨r, -, h⟩
    · rw [h]
      rfl
    · rcases w.effect_cases with h' | ⟨r', -, h'⟩
      · rw [h']
        rfl
      · rw [h, h', hw]
        refine Rows.map_map_comm ?_
        exact LicenseTable.merged_comm (fun old => keeps old _) (fun _ => rfl)
          fun old _ _ => hcomm old _ _

end LicenseWrite

namespace ContentIndex

variable {c c' : Content}

def updateRow (c : Content) : Except Failure ContentRow := do bindUpdate c (← c.key.bindKey)

def updateEffect (c : Content) (t : ContentTable) : ContentTable :=
  match updateRow c with
  | .ok r => { t with entries := t.entries.map (ContentTable.replaced (r.convert t.layout)) }
  | .error _ => t

theorem bound_updateRow {r : ContentRow} (h : updateRow c = .ok r) : c.id.Bound r.id := by
  obtain ⟨key, hkey, h⟩ := exists_of_bind_eq_ok h
  exact (binds_of_bindUpdate hkey h).id

theorem update_makes (c : Content) : Makes (update · c) (mapContents (updateEffect c)) := by
  intro db db' h
  obtain ⟨key, hkey, h⟩ := exists_of_bind_eq_ok ((update_eq db c).symm.trans h)
  obtain ⟨t, ht, h⟩ := exists_of_bind_eq_ok h
  obtain ⟨r, hr, h⟩ := exists_of_bind_eq_ok h
  obtain ⟨t', ht', h⟩ := exists_of_bind_eq_ok h
  cases h
  have hrow : updateRow c = .ok r := by
    rw [updateRow, hkey]
    exact hr
  obtain ⟨-, rfl⟩ := ContentTable.update_eq_ok (ofExecuted_eq_ok.1 ht')
  rw [mapContents, (table_eq_ok.1 ht).1, Option.map_some, updateEffect, hrow]

theorem ids_updateEffect (c : Content) (t : ContentTable) :
    (updateEffect c t).rows.map (·.id) = t.rows.map (·.id) := by
  rw [updateEffect]
  split
  · rw [ContentTable.rows, Rows.toList_map, List.map_map]
    exact List.map_congr_left fun old _ => Database.id_replaced _ old
  · rfl

theorem layout_updateEffect (c : Content) (t : ContentTable) :
    (updateEffect c t).layout = t.layout := by
  rw [updateEffect]
  split <;> rfl

theorem update_undisturbed {G : Database → Database} {k : ContentTable → ContentTable}
    (htable : ∀ db, (G db).content = db.content.map k) (hlayout : ∀ t, (k t).layout = t.layout)
    (hids : ∀ t : ContentTable, (k t).rows.map (·.id) = t.rows.map (·.id)) (c : Content) :
    Undisturbed (update · c) G := by
  intro db
  have hany (t : ContentTable) (i : Cell) :
      (k t).rows.any (i.matches ·.id) = t.rows.any (i.matches ·.id) := by
    have hall := congrArg (List.any · (i.matches ·)) (hids t)
    simpa only [List.any_map, Function.comp_def] using hall
  have htable : table (G db) noType = (table db noType).map k := by
    cases ht : db.content with
    | none => simp only [table, htable, ht]; rfl
    | some t =>
      simp only [table, htable, ht, Option.map_some, hlayout]
      split <;> rfl
  simp only [update_eq, htable]
  cases c.key.bindKey with
  | error f => rfl
  | ok key =>
    simp only [ok_bind]
    cases table db noType with
    | error f => rfl
    | ok t =>
      simp only [ok_bind, Except.map]
      cases bindUpdate c key with
      | error f => rfl
      | ok r =>
        simp only [ok_bind, fate_bind_pure, ContentTable.update, hlayout, hany]
        split
        · cases (r.convert t.layout).checkNulls with
          | error e => rfl
          | ok _ => rfl
        · rfl

theorem replaced_comm {r r' : ContentRow} (h : r.id.matches r'.id = false) (old : ContentRow) :
    ContentTable.replaced r (ContentTable.replaced r' old) =
      ContentTable.replaced r' (ContentTable.replaced r old) := by
  have h' : r'.id.matches r.id = false := by
    rw [Cell.matches_comm]
    exact h
  cases hold : r.id.matches old.id with
  | true =>
    have hid := (Cell.matches_iff.1 hold).2
    have hother : r'.id.matches old.id = false := by rw [← hid]; exact h'
    simp [ContentTable.replaced, hold, hother, h']
  | false =>
    cases hother : r'.id.matches old.id with
    | true => simp [ContentTable.replaced, hold, hother, h]
    | false => simp [ContentTable.replaced, hold, hother]

theorem updateEffect_comm (h : c.id.Apart c'.id) (t : ContentTable) :
    updateEffect c (updateEffect c' t) = updateEffect c' (updateEffect c t) := by
  have hlayout := layout_updateEffect c t
  have hlayout' := layout_updateEffect c' t
  cases hr : updateRow c with
  | error f => simp only [updateEffect, hr]
  | ok r =>
    cases hr' : updateRow c' with
    | error f => simp only [updateEffect, hr, hr']
    | ok r' =>
      have hapart : (r.convert t.layout).id.matches (r'.convert t.layout).id = false :=
        h _ _ (bound_updateRow hr) (bound_updateRow hr')
      simp only [updateEffect, hr, hr']
      rw [Rows.map_map_comm (replaced_comm hapart)]

end ContentIndex

def Step.addsLicense : Step → Bool
  | .addLicense _ => true
  | _ => false

theorem Step.exists_licenseWrite {x : Step} {i : Datum} (h : x.license? = some i) :
    ∃ w e, x.licenseWrite? = some (w, e) ∧ w.change.isInsert = x.addsLicense ∧
      w.change.SeesIds ∧ ∀ r, w.row = .ok r → i.Bound r.id := by
  cases x with
  | addLicense l =>
    refine ⟨_, _, rfl, rfl, ?_, fun r => Step.bound_of_row rfl h⟩
    intro contents contents' t r heq
    simp only [LicenseWrite.adding, LicenseChange.apply, LicenseTable.enter,
      LicenseChange.checkReference_of_ids heq]
  | updateLicense l clock =>
    refine ⟨_, _, rfl, rfl, ?_, fun r => Step.bound_of_row rfl h⟩
    intro contents contents' t r heq
    simp only [LicenseWrite.updating, LicenseChange.apply, LicenseChange.checkReference_of_ids heq]
  | updateRights l clock =>
    exact ⟨_, _, rfl, rfl, fun _ _ _ _ _ => rfl, fun r => Step.bound_of_row rfl h⟩
  | setStatus id status =>
    exact ⟨_, _, rfl, rfl, fun _ _ _ _ _ => rfl, fun r => Step.bound_of_row rfl h⟩
  | _ => cases h

/-- Writes that have nothing to do with each other: of different licenses, but for two additions;
the status of a license and its other fields; a content and a license; different contents. -/
inductive Step.Independent : Step → Step → Prop
  | licenses {x y : Step} {i j : Datum} : x.license? = some i → y.license? = some j → i.Apart j →
    x.addsLicense = false ∨ y.addsLicense = false → Independent x y
  | statusUpdate (id status : Datum) (l : License) (clock : Moment) :
    Independent (.setStatus id status) (.updateLicense l clock)
  | statusRights (id status : Datum) (l : License) (clock : Moment) :
    Independent (.setStatus id status) (.updateRights l clock)
  | contentLicense (c : Content) {y : Step} {j : Datum} : y.license? = some j →
    Independent (.updateContent c) y
  | contents {c c' : Content} : c.id.Apart c'.id →
    Independent (.updateContent c) (.updateContent c')

namespace Session

structure SameReplies (s : Session) (x y : Step) : Prop where
  first : ((s.step y).2.step x).1 = (s.step x).1
  second : ((s.step x).2.step y).1 = (s.step y).1

structure Commute (s : Session) (x y : Step) : Prop where
  replies : s.SameReplies x y
  final : ((s.step x).2.step y).2 = ((s.step y).2.step x).2

def withLicenses (s : Session) (t : LicenseTable) (m n : Int) (r r' : LicenseRow) : Session :=
  s.withDatabase { s.database with license := some { t with
    entries := (t.entries.insertAt m r).insertAt n r' } }

/-- The order of two steps matters at most for the order of two new licenses: they stand under the
same two numbers, one or the other way round, and all else is the same. -/
structure CommuteButOrder (s : Session) (x y : Step) : Prop where
  replies : s.SameReplies x y
  rows : ((s.step x).2.step y).2.database.licenseRows.Perm
    ((s.step y).2.step x).2.database.licenseRows
  final : ((s.step x).2.step y).2 = ((s.step y).2.step x).2 ∨
    ∃ t m n r r', ((s.step x).2.step y).2 = s.withLicenses t m n r r' ∧
      ((s.step y).2.step x).2 = s.withLicenses t m n r' r

def WritesBy (s : Session) (x : Step) (f : Database → Except Failure Database) (e : Event) : Prop :=
  ∀ db, (s.withDatabase db).step x = (s.withDatabase db).writing (f db) e

def whenOpen (s : Session) (t : Table) (f : Database → Except Failure Database) (db : Database) :
    Except Failure Database :=
  if s.isOpen t then f db else .error (.notOpen t)

variable {s : Session} {x y : Step} {f g : Database → Except Failure Database}
  {F G : Database → Database} {e e' : Event}

theorem onStore_writing_eq (s : Session) (t : Table) (f : Database → Except Failure Database)
    (e : Event) (db : Database) :
    (s.withDatabase db).onStore t ((s.withDatabase db).writing (f db) e) =
      (s.withDatabase db).writing (s.whenOpen t f db) e := by
  have hopen : (s.withDatabase db).isOpen t = s.isOpen t := by cases t <;> rfl
  rw [onStore, whenOpen, hopen]
  split
  · rfl
  · rfl

theorem writesBy_license {w : LicenseWrite} (h : x.licenseWrite? = some (w, e)) :
    s.WritesBy x (s.whenOpen .license (w.result s.enforce)) e :=
  fun db => ((s.withDatabase db).step_licenseWrite h).trans (s.onStore_writing_eq ..)

theorem writesBy_updateContent (c : Content) :
    s.WritesBy (.updateContent c) (s.whenOpen .content (ContentIndex.update · c))
      (.contentUpdated c.id) :=
  fun db => ((s.withDatabase db).step_eq _).trans
    (s.onStore_writing_eq .content (ContentIndex.update · c) ..)

theorem makes_whenOpen (h : Makes f F) (t : Table) : Makes (s.whenOpen t f) F := by
  intro db db' hok
  rw [whenOpen] at hok
  split at hok
  · exact h db db' hok
  · cases hok

theorem undisturbed_whenOpen (h : Undisturbed f G) (t : Table) :
    Undisturbed (s.whenOpen t f) G := by
  intro db
  rw [whenOpen, whenOpen]
  split
  · exact h db
  · rfl

theorem writing_fst_of_fate {z z' : Except Failure Database} (h : fate z = fate z')
    (db : Database) (e : Event) : ((s.withDatabase db).writing z e).1 = (s.writing z' e).1 := by
  cases z with
  | error a =>
    cases z' with
    | error b => cases h; rfl
    | ok b => cases h
  | ok a =>
    cases z' with
    | error b => cases h
    | ok b => rfl

theorem step_snd_of_writesBy (hx : s.WritesBy x f e) (hF : Makes f F) (db : Database) :
    ((s.withDatabase db).step x).2 =
      s.withDatabase (if (f db).isOk then F db else db) := by
  rw [hx]
  cases hf : f db with
  | error a => rfl
  | ok db' =>
    rw [hF _ _ hf]
    rfl

theorem isOk_of_fate {z z' : Except Failure Database} (h : fate z = fate z') :
    z.isOk = z'.isOk := by
  cases z with
  | error a =>
    cases z' with
    | error b => rfl
    | ok b => cases h
  | ok a =>
    cases z' with
    | error b => cases h
    | ok b => rfl

theorem step_after (hx : s.WritesBy x f e) (hy : s.WritesBy y g e') (hF : Makes f F)
    (hG : Makes g G) (hfG : Undisturbed f G) :
    ((s.step y).2.step x).1 = (s.step x).1 ∧
      ((s.step y).2.step x).2 = s.withDatabase
        (let db := if (g s.database).isOk then G s.database else s.database
        if (f s.database).isOk then F db else db) := by
  have hstep : (s.step y).2 = _ := step_snd_of_writesBy hy hG s.database
  have hx₀ : s.step x = s.writing (f s.database) e := hx s.database
  have hfate : fate (f (if (g s.database).isOk then G s.database else s.database)) =
      fate (f s.database) := by
    split
    · exact hfG _
    · rfl
  rw [hstep]
  refine ⟨?_, ?_⟩
  · rw [hx, hx₀]
    exact writing_fst_of_fate hfate _ _
  · rw [step_snd_of_writesBy hx hF, isOk_of_fate hfate]

theorem sameReplies_of_undisturbed (hx : s.WritesBy x f e) (hy : s.WritesBy y g e')
    (hF : Makes f F) (hG : Makes g G) (hfG : Undisturbed f G) (hgF : Undisturbed g F) :
    s.SameReplies x y :=
  ⟨(step_after hx hy hF hG hfG).1, (step_after hy hx hG hF hgF).1⟩

theorem commute_of_undisturbed (hx : s.WritesBy x f e) (hy : s.WritesBy y g e')
    (hF : Makes f F) (hG : Makes g G) (hfG : Undisturbed f G) (hgF : Undisturbed g F)
    (hcomm : ∀ db, F (G db) = G (F db)) : s.Commute x y := by
  refine ⟨sameReplies_of_undisturbed hx hy hF hG hfG hgF, ?_⟩
  rw [(step_after hx hy hF hG hfG).2, (step_after hy hx hG hF hgF).2]
  cases (f s.database).isOk with
  | false => rfl
  | true =>
    cases (g s.database).isOk with
    | false => rfl
    | true => exact congrArg s.withDatabase (hcomm s.database).symm

theorem commute_of_licenseWrites {w w' : LicenseWrite} (hx : x.licenseWrite? = some (w, e))
    (hy : y.licenseWrite? = some (w', e'))
    (h : Undisturbed (w.result s.enforce) (mapLicenses w'.effect))
    (h' : Undisturbed (w'.result s.enforce) (mapLicenses w.effect))
    (hcomm : ∀ rows, w.effect (w'.effect rows) = w'.effect (w.effect rows)) : s.Commute x y :=
  commute_of_undisturbed (writesBy_license hx) (writesBy_license hy)
    (makes_whenOpen (w.makes _) _) (makes_whenOpen (w'.makes _) _) (undisturbed_whenOpen h _)
    (undisturbed_whenOpen h' _) (Database.mapLicenses_comm hcomm)

theorem independent_commute (s : Session) {x y : Step} (h : x.Independent y) : s.Commute x y := by
  cases h with
  | licenses hi hj hapart hadds =>
    obtain ⟨w, e, hx, hinsert, -, hbound⟩ := Step.exists_licenseWrite hi
    obtain ⟨w', e', hy, hinsert', -, hbound'⟩ := Step.exists_licenseWrite hj
    rw [← hinsert, ← hinsert'] at hadds
    exact commute_of_licenseWrites hx hy
      (LicenseWrite.undisturbed_of_apart hbound hbound' hapart)
      (LicenseWrite.undisturbed_of_apart hbound' hbound hapart.symm)
      (LicenseWrite.effect_comm_of_apart hbound hbound' hapart hadds)
  | statusUpdate id status l clock =>
    have h : (LicenseWrite.settingStatus id status).Compatible (.updating l clock) :=
      LicenseWrite.compatible_settingStatus rfl (fun _ _ _ _ => rfl) (fun _ _ _ => rfl) id status
    exact commute_of_licenseWrites rfl rfl (h.first _) (h.second _) h.comm
  | statusRights id status l clock =>
    have h : (LicenseWrite.settingStatus id status).Compatible (.updatingRights l clock) :=
      LicenseWrite.compatible_settingStatus rfl (fun _ _ _ _ => rfl) (fun _ _ _ => rfl) id status
    exact commute_of_licenseWrites rfl rfl (h.first _) (h.second _) h.comm
  | contentLicense c hj =>
    obtain ⟨w, e, hy, -, hsees, -⟩ := Step.exists_licenseWrite hj
    have hupdate : Undisturbed (ContentIndex.update · c) (mapLicenses w.effect) := by
      refine ContentIndex.update_undisturbed (k := id) ?_ (fun _ => rfl) (fun _ => rfl) c
      exact fun db => (congrFun Option.map_id db.content).symm
    exact commute_of_undisturbed (writesBy_updateContent c) (writesBy_license hy)
      (makes_whenOpen (ContentIndex.update_makes c) _) (makes_whenOpen (w.makes _) _)
      (undisturbed_whenOpen hupdate _)
      (undisturbed_whenOpen (LicenseWrite.undisturbed_by_contents
        (ContentIndex.ids_updateEffect c) hsees) _)
      (fun _ => rfl)
  | @contents c c' hapart =>
    have hundisturbed (c c' : Content) :
        Undisturbed (ContentIndex.update · c) (mapContents (ContentIndex.updateEffect c')) :=
      ContentIndex.update_undisturbed (fun _ => rfl) (ContentIndex.layout_updateEffect c')
        (ContentIndex.ids_updateEffect c') c
    refine commute_of_undisturbed (writesBy_updateContent c) (writesBy_updateContent c')
      (makes_whenOpen (ContentIndex.update_makes c) _)
      (makes_whenOpen (ContentIndex.update_makes c') _)
      (undisturbed_whenOpen (hundisturbed c c') _) (undisturbed_whenOpen (hundisturbed c' c) _) ?_
    intro db
    cases ht : db.content with
    | none => simp [mapContents, ht]
    | some t => simp [mapContents, ht, ContentIndex.updateEffect_comm hapart]

theorem effect_adding {l : License} {r : LicenseRow} (hr : (LicenseWrite.adding l).row = .ok r)
    {t : LicenseTable} {db : Database} (ht : db.license = some t) :
    mapLicenses (LicenseWrite.adding l).effect db =
      { db with license := some { t with entries := t.entries.add r.convert } } := by
  rw [mapLicenses, ht, LicenseWrite.effect, hr]
  rfl

theorem addLicense_after (s : Session) {l l' : License} (hapart : l.id.Apart l'.id) :
    let f := s.whenOpen .license ((LicenseWrite.adding l).result s.enforce) s.database
    let g := s.whenOpen .license ((LicenseWrite.adding l').result s.enforce) s.database
    let after := (s.step (.addLicense l')).2.step (.addLicense l)
    after.1 = (s.step (.addLicense l)).1 ∧ after.2 = s.withDatabase
      (let db := if g.isOk then mapLicenses (LicenseWrite.adding l').effect s.database
        else s.database
      if f.isOk then mapLicenses (LicenseWrite.adding l).effect db else db) := by
  have hbound (l : License) (r : LicenseRow) (hr : (LicenseWrite.adding l).row = .ok r) :
      l.id.Bound r.id := Step.bound_of_row (x := .addLicense l) rfl rfl hr
  exact step_after (writesBy_license rfl) (writesBy_license rfl)
    (makes_whenOpen (LicenseWrite.makes _ _) _) (makes_whenOpen (LicenseWrite.makes _ _) _)
    (undisturbed_whenOpen (LicenseWrite.undisturbed_of_apart (hbound l) (hbound l') hapart) _)

theorem row_of_isOk {l : License}
    (h : (s.whenOpen .license ((LicenseWrite.adding l).result s.enforce) s.database).isOk = true) :
    ∃ t r, s.database.license = some t ∧ (LicenseWrite.adding l).row = .ok r := by
  rw [whenOpen] at h
  split at h
  · cases hresult : (LicenseWrite.adding l).result s.enforce s.database with
    | error f =>
      rw [hresult] at h
      cases h
    | ok db =>
      obtain ⟨t, r, ht, hr, -⟩ := LicenseWrite.result_eq_ok hresult
      exact ⟨t, r, ht, hr⟩
  · cases h

theorem additions_commute (s : Session) {l l' : License} (hapart : l.id.Apart l'.id) :
    s.CommuteButOrder (.addLicense l) (.addLicense l') := by
  obtain ⟨hfirst, hfinal⟩ := s.addLicense_after hapart
  obtain ⟨hsecond, hfinal'⟩ := s.addLicense_after hapart.symm
  suffices h : ((s.step (.addLicense l)).2.step (.addLicense l')).2 =
      ((s.step (.addLicense l')).2.step (.addLicense l)).2 ∨
      ∃ t m n r r', ((s.step (.addLicense l)).2.step (.addLicense l')).2 =
          s.withLicenses t m n r r' ∧
        ((s.step (.addLicense l')).2.step (.addLicense l)).2 = s.withLicenses t m n r' r by
    refine ⟨⟨hfirst, hsecond⟩, ?_, h⟩
    rcases h with heq | ⟨t, m, n, r, r', heq, heq'⟩
    · rw [heq]
    · rw [heq, heq']
      exact Rows.exchange_perm t.entries m n r r'
  rw [hfinal, hfinal']
  cases hok : (s.whenOpen .license ((LicenseWrite.adding l).result s.enforce) s.database).isOk with
  | false => exact .inl (by simp only [Bool.false_eq_true, if_false])
  | true =>
    cases hok' :
        (s.whenOpen .license ((LicenseWrite.adding l').result s.enforce) s.database).isOk with
    | false => exact .inl (by simp only [Bool.false_eq_true, if_false])
    | true =>
      obtain ⟨t, r, ht, hr⟩ := row_of_isOk hok
      obtain ⟨-, r', -, hr'⟩ := row_of_isOk hok'
      refine .inr ⟨t, t.entries.nextNumber, (t.entries.add r.convert).nextNumber, r.convert,
        r'.convert, ?_, ?_⟩
      · rw [withLicenses, ← Rows.add, ← Rows.add, if_pos rfl, if_pos rfl, effect_adding hr ht,
          effect_adding hr' rfl]
      · rw [withLicenses, Rows.nextNumber_add t.entries r.convert r'.convert, ← Rows.add,
          ← Rows.add, if_pos rfl, if_pos rfl, effect_adding hr' ht, effect_adding hr rfl]

/-- The order of two independent writes does not matter, whatever they are given and whatever the
session is: each answers the same, be it by the same error, and the session ends the same with all
its rows in their places. Two additions end the same but for which of the two stands first. -/
theorem writes_commute (s : Session) :
    (∀ x y : Step, x.Independent y → s.Commute x y) ∧
      ∀ l l' : License, l.id.Apart l'.id → s.CommuteButOrder (.addLicense l) (.addLicense l') :=
  ⟨fun _ _ => s.independent_commute, fun _ _ => s.additions_commute⟩

theorem writes_commute_of_status_and_rights :
    let added := fun i : String => ({
      id := .text i, issued := .moment ⟨0, by decide, none⟩, contentId := .text "c" } : License)
    let s := ((start .sqlite (.container false false)).run [
      .openStore .license, .addContent { id := .text "c" }, .addLicense (added "a")]).2
    let x := Step.setStatus (.text "a") (.int 3)
    let y := Step.updateRights { id := .text "a", rights := some { print := .int 5 } }
      ⟨0, by decide, none⟩
    (s.step x).1.succeeded = true ∧ (s.step y).1.succeeded = true ∧
      ((s.step x).2.step y).2 = ((s.step y).2.step x).2 ∧
      s.CommuteButOrder (.addLicense (added "b")) (.addLicense (added "d")) := by
  intro added s x y
  obtain ⟨hindependent, hadditions⟩ := writes_commute s
  refine ⟨by decide +kernel, by decide +kernel, ?_, ?_⟩
  · exact (hindependent x y (.statusRights ..)).final
  · exact hadditions _ _ (Datum.apart_text.2 (by decide))

/-- The ids 1 and "1" are different values but name one row: the rights of the one are there to be
updated once the other has been added. -/
theorem writes_of_one_row_do_not_commute :
    let s := ((start .sqlite (.container false false)).run [
      .openStore .license, .addContent { id := .text "c" }]).2
    let x := Step.addLicense {
      id := .int 1, issued := .moment ⟨0, by decide, none⟩, contentId := .text "c" }
    let y := Step.updateRights { id := .text "1" } ⟨0, by decide, none⟩
    x.license? = some (.int 1) ∧ y.license? = some (.text "1") ∧ (s.step x).1.succeeded = true ∧
      (s.step y).1.succeeded = false ∧ ((s.step x).2.step y).1.succeeded = true ∧
      ¬s.Commute x y := by
  intro s x y
  obtain ⟨hadded, hmissing, hfound⟩ : (s.step x).1.succeeded = true ∧
      (s.step y).1.succeeded = false ∧ ((s.step x).2.step y).1.succeeded = true := by decide +kernel
  refine ⟨rfl, rfl, hadded, hmissing, hfound, ?_⟩
  intro h
  rw [h.replies.second, hmissing] at hfound
  cases hfound

end Session

end RightsStore
