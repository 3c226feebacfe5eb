import RightsStore.Proofs.Binding
import RightsStore.Proofs.Commands

namespace RightsStore

open Failure (ofExecuted)

theorem ofExecuted_eq_ok {x : Executed α} {a : α} : ofExecuted x = .ok a ↔ x = .ok a := by
  cases x with
  | error r => simp [ofExecuted]
  | ok b => simp [ofExecuted]

structure Rights.Binds (g : Rights) (r : LicenseRow) : Prop where
  print : g.print.Bound r.print
  copy : g.copy.Bound r.copy
  start : g.start.bind = .ok r.start
  stop : g.stop.bind = .ok r.stop

structure License.BindsOwner (l : License) (r : LicenseRow) : Prop where
  user : ∃ u, l.user = some u ∧ u.id.Bound r.userId
  provider : l.provider.Bound r.provider
  contentId : l.contentId.Bound r.contentId

def Moment.Stamps (clock : Moment) (c : Cell) : Prop :=
  ∃ u, LicenseStore.now clock = .ok u ∧ (Stamp.moment u).bind = .ok c

theorem Moment.Stamps.isMoment {clock : Moment} {c : Cell} (h : clock.Stamps c) :
    ∃ t, clock.utc? = some t ∧ c.IsMoment t.wholeSecond := by
  obtain ⟨u, hnow, hbind⟩ := h
  cases ht : clock.utc? with
  | none =>
    rw [LicenseStore.now, ht] at hnow
    cases hnow
  | some t =>
    rw [LicenseStore.now, ht] at hnow
    cases hnow
    have hutc : t.wholeSecond.offset = some .utc := offset_of_utc? (u := t) ht
    rcases Stamp.bind_eq_ok hbind with ⟨hnull, -⟩ | ⟨t', u, heq, hu, hc⟩
    · cases hnull
    · cases heq
      rw [utc?_of_utc hutc] at hu
      cases hu
      exact ⟨t, rfl, hc⟩

theorem Moment.Stamps.convert {clock : Moment} {c : Cell} (h : clock.Stamps c) :
    clock.Stamps (Affinity.numeric.convert c) := by
  obtain ⟨u, hu, hc⟩ := h
  rw [Stamp.convert_of_bind hc]
  exact ⟨u, hu, hc⟩

namespace LicenseStore

structure Insertion (l : License) (r : LicenseRow) : Prop where
  id : l.id.Bound r.id
  owner : l.BindsOwner r
  rights : l.grants.Binds r
  issued : l.issued.bind = .ok r.issued
  updated : r.updated = .null
  status : l.storedStatus.Bound r.status

structure Amendment (l : License) (clock : Moment) (r : LicenseRow) : Prop where
  id : l.id.Bound r.id
  owner : l.BindsOwner r
  rights : l.grants.Binds r
  updated : clock.Stamps r.updated

structure Regrant (l : License) (clock : Moment) (r : LicenseRow) : Prop where
  id : l.id.Bound r.id
  rights : l.grants.Binds r
  updated : clock.Stamps r.updated

structure Restatement (id status : Datum) (r : LicenseRow) : Prop where
  id : id.Bound r.id
  status : status.Bound r.status

theorem table_eq_ok {db : Database} {t : LicenseTable} : table db = .ok t ↔ db.license = some t := by
  unfold table
  split <;> simp_all

theorem bindTerm_eq_ok {g : Rights} {w : Term} (h : bindTerm g = .ok w) :
    g.start.bind = .ok w.start ∧ g.stop.bind = .ok w.stop := by
  obtain ⟨start, hstart, h⟩ := exists_of_bind_eq_ok h
  obtain ⟨stop, hstop, h⟩ := exists_of_bind_eq_ok h
  cases h
  exact ⟨hstart, hstop⟩

theorem add_eq_ok {enforce : Bool} {db db' : Database} {l : License}
    (h : add enforce db l = .ok db') :
    ∃ t t' r, db.license = some t ∧ Insertion l r ∧
      t.enter (references enforce db) r = .ok t' ∧ db' = { db with license := some t' } := by
  rw [add_eq] at h
  split at h
  · rename_i user huser
    obtain ⟨issued, hissued, h⟩ := exists_of_bind_eq_ok h
    obtain ⟨w, hw, h⟩ := exists_of_bind_eq_ok h
    obtain ⟨t, ht, h⟩ := exists_of_bind_eq_ok h
    obtain ⟨-, h⟩ := bind_unit_eq_ok.1 h
    obtain ⟨id, hid, h⟩ := exists_of_bind_eq_ok h
    obtain ⟨userId, huserId, h⟩ := exists_of_bind_eq_ok h
    obtain ⟨provider, hprovider, h⟩ := exists_of_bind_eq_ok h
    obtain ⟨print, hprint, h⟩ := exists_of_bind_eq_ok h
    obtain ⟨copy, hcopy, h⟩ := exists_of_bind_eq_ok h
    obtain ⟨contentId, hcontentId, h⟩ := exists_of_bind_eq_ok h
    obtain ⟨status, hstatus, h⟩ := exists_of_bind_eq_ok h
    obtain ⟨t', ht', h⟩ := exists_of_bind_eq_ok h
    cases h
    obtain ⟨hstart, hstop⟩ := bindTerm_eq_ok hw
    exact ⟨t, t', _, table_eq_ok.1 ht,
      { id := ⟨_, hid⟩
        owner := ⟨⟨user, huser, _, huserId⟩, ⟨_, hprovider⟩, ⟨_, hcontentId⟩⟩
        rights := ⟨⟨_, hprint⟩, ⟨_, hcopy⟩, hstart, hstop⟩
        issued := hissued
        updated := rfl
        status := ⟨_, hstatus⟩ }, ofExecuted_eq_ok.1 ht', rfl⟩
  · cases h

def checkAmended (enforce : Bool) (db : Database) (r : LicenseRow) : Executed Unit := do
  r.checkNulls
  LicenseTable.checkReference (references enforce db) r

theorem update_eq_ok {enforce : Bool} {db db' : Database} {l : License} {clock : Moment}
    (h : update enforce db l clock = .ok db') :
    ∃ t t' n r, db.license = some t ∧ Amendment l clock r ∧
      t.modify r .amend (checkAmended enforce db) = .ok (t', n) ∧
      db' = { db with license := some t' } := by
  rw [update_eq] at h
  split at h
  · rename_i user huser
    obtain ⟨u, hu, h⟩ := exists_of_bind_eq_ok h
    obtain ⟨updated, hupdated, h⟩ := exists_of_bind_eq_ok h
    obtain ⟨w, hw, h⟩ := exists_of_bind_eq_ok h
    obtain ⟨t, ht, h⟩ := exists_of_bind_eq_ok h
    obtain ⟨-, h⟩ := bind_unit_eq_ok.1 h
    obtain ⟨userId, huserId, h⟩ := exists_of_bind_eq_ok h
    obtain ⟨provider, hprovider, h⟩ := exists_of_bind_eq_ok h
    obtain ⟨print, hprint, h⟩ := exists_of_bind_eq_ok h
    obtain ⟨copy, hcopy, h⟩ := exists_of_bind_eq_ok h
    obtain ⟨contentId, hcontentId, h⟩ := exists_of_bind_eq_ok h
    obtain ⟨id, hid, h⟩ := exists_of_bind_eq_ok h
    obtain ⟨⟨t', n⟩, ht', h⟩ := exists_of_bind_eq_ok h
    cases h
    obtain ⟨hstart, hstop⟩ := bindTerm_eq_ok hw
    exact ⟨t, t', n, _, table_eq_ok.1 ht,
      { id := ⟨_, hid⟩
        owner := ⟨⟨user, huser, _, huserId⟩, ⟨_, hprovider⟩, ⟨_, hcontentId⟩⟩
        rights := ⟨⟨_, hprint⟩, ⟨_, hcopy⟩, hstart, hstop⟩
        updated := ⟨u, hu, hupdated⟩ }, ofExecuted_eq_ok.1 ht', rfl⟩
  · cases h

theorem updateRights_eq_ok {db db' : Database} {l : License} {clock : Moment} {n : Nat}
    (h : updateRights db l clock = .ok (db', n)) :
    ∃ t t' r, db.license = some t ∧ Regrant l clock r ∧
      t.modify r .regrant (fun _ => .ok ()) = .ok (t', n) ∧
      db' = { db with license := some t' } := by
  rw [updateRights_eq] at h
  obtain ⟨u, hu, h⟩ := exists_of_bind_eq_ok h
  obtain ⟨updated, hupdated, h⟩ := exists_of_bind_eq_ok h
  obtain ⟨w, hw, h⟩ := exists_of_bind_eq_ok h
  obtain ⟨t, ht, h⟩ := exists_of_bind_eq_ok h
  obtain ⟨print, hprint, h⟩ := exists_of_bind_eq_ok h
  obtain ⟨copy, hcopy, h⟩ := exists_of_bind_eq_ok h
  obtain ⟨id, hid, h⟩ := exists_of_bind_eq_ok h
  obtain ⟨⟨t', n'⟩, ht', h⟩ := exists_of_bind_eq_ok h
  cases h
  obtain ⟨hstart, hstop⟩ := bindTerm_eq_ok hw
  exact ⟨t, t', _, table_eq_ok.1 ht,
    { id := ⟨_, hid⟩
      rights := ⟨⟨_, hprint⟩, ⟨_, hcopy⟩, hstart, hstop⟩
      updated := ⟨u, hu, hupdated⟩ }, ofExecuted_eq_ok.1 ht', rfl⟩

theorem updateRights_zero {db db' : Database} {l : License} {clock : Moment}
    (h : updateRights db l clock = .ok (db', 0)) : db' = db := by
  obtain ⟨t, t', r, ht, -, hmodify, rfl⟩ := updateRights_eq_ok h
  obtain ⟨-, ⟨-, rfl⟩ | ⟨h, -⟩⟩ := LicenseTable.modify_eq_ok hmodify
  · cases db
    cases ht
    rfl
  · cases h

theorem setStatus_eq_ok {db db' : Database} {id status : Datum}
    (h : setStatus db id status = .ok db') :
    ∃ t t' n r, db.license = some t ∧ Restatement id status r ∧
      t.modify r .restate (fun _ => .ok ()) = .ok (t', n) ∧
      db' = { db with license := some t' } := by
  rw [setStatus_eq] at h
  obtain ⟨t, ht, h⟩ := exists_of_bind_eq_ok h
  obtain ⟨statusCell, hstatus, h⟩ := exists_of_bind_eq_ok h
  obtain ⟨idCell, hid, h⟩ := exists_of_bind_eq_ok h
  obtain ⟨⟨t', n⟩, ht', h⟩ := exists_of_bind_eq_ok h
  cases h
  exact ⟨t, t', n, _, table_eq_ok.1 ht, ⟨⟨_, hid⟩, ⟨_, hstatus⟩⟩, ofExecuted_eq_ok.1 ht', rfl⟩

end LicenseStore

namespace ContentIndex

structure Binds (c : Content) (r : ContentRow) : Prop where
  id : c.id.Bound r.id
  key : c.key.bindKey = .ok r.key
  location : c.location.Bound r.location
  length : c.length.Bound r.length
  sha256 : c.sha256.Bound r.sha256
  mediaType : c.storedType.Bound r.mediaType

theorem table_eq_ok {db : Database} {missing : Refusal} {t : ContentTable} :
    table db missing = .ok t ↔ db.content = some t ∧ t.layout.hasType = true := by
  unfold table
  split
  · simp_all
  · split
    · simp_all
      rintro rfl
      assumption
    · simp_all
      rintro rfl
      assumption

theorem bindRest_eq_ok {c : Content} {key : Cell} {k : Nat} {r : ContentRow}
    (h : bindRest c key k = .ok r) :
    r.key = key ∧ c.location.Bound r.location ∧ c.length.Bound r.length ∧
      c.sha256.Bound r.sha256 ∧ c.storedType.Bound r.mediaType := by
  obtain ⟨location, hlocation, h⟩ := exists_of_bind_eq_ok h
  obtain ⟨length, hlength, h⟩ := exists_of_bind_eq_ok h
  obtain ⟨sha256, hsha256, h⟩ := exists_of_bind_eq_ok h
  obtain ⟨mediaType, hmediaType, h⟩ := exists_of_bind_eq_ok h
  cases h
  exact ⟨rfl, ⟨_, hlocation⟩, ⟨_, hlength⟩, ⟨_, hsha256⟩, ⟨_, hmediaType⟩⟩

theorem binds_of_bindInsertion {c : Content} {key : Cell} {r : ContentRow}
    (hkey : c.key.bindKey = .ok key) (h : bindInsertion c key = .ok r) : Binds c r := by
  obtain ⟨id, hid, h⟩ := exists_of_bind_eq_ok h
  obtain ⟨rest, hrest, h⟩ := exists_of_bind_eq_ok h
  cases h
  obtain ⟨rfl, hlocation, hlength, hsha256, hmediaType⟩ := bindRest_eq_ok hrest
  exact ⟨⟨_, hid⟩, hkey, hlocation, hlength, hsha256, hmediaType⟩

theorem binds_of_bindUpdate {c : Content} {key : Cell} {r : ContentRow}
    (hkey : c.key.bindKey = .ok key) (h : bindUpdate c key = .ok r) : Binds c r := by
  obtain ⟨rest, hrest, h⟩ := exists_of_bind_eq_ok h
  obtain ⟨id, hid, h⟩ := exists_of_bind_eq_ok h
  cases h
  obtain ⟨rfl, hlocation, hlength, hsha256, hmediaType⟩ := bindRest_eq_ok hrest
  exact ⟨⟨_, hid⟩, hkey, hlocation, hlength, hsha256, hmediaType⟩

theorem add_eq_ok {db db' : Database} {c : Content} (h : add db c = .ok db') :
    ∃ t t' r, db.content = some t ∧ Binds c r ∧ t.insert r = .ok t' ∧
      db' = { db with content := some t' } := by
  rw [add_eq] at h
  obtain ⟨key, hkey, h⟩ := exists_of_bind_eq_ok h
  obtain ⟨t, ht, h⟩ := exists_of_bind_eq_ok h
  obtain ⟨r, hr, h⟩ := exists_of_bind_eq_ok h
  obtain ⟨t', ht', h⟩ := exists_of_bind_eq_ok h
  cases h
  exact ⟨t, t', r, (table_eq_ok.1 ht).1, binds_of_bindInsertion hkey hr, ofExecuted_eq_ok.1 ht', rfl⟩

theorem update_eq_ok {db db' : Database} {c : Content} (h : update db c = .ok db') :
    ∃ t t' r, db.content = some t ∧ Binds c r ∧ t.update r = .ok t' ∧
      db' = { db with content := some t' } := by
  rw [update_eq] at h
  obtain ⟨key, hkey, h⟩ := exists_of_bind_eq_ok h
  obtain ⟨t, ht, h⟩ := exists_of_bind_eq_ok h
  obtain ⟨r, hr, h⟩ := exists_of_bind_eq_ok h
  obtain ⟨t', ht', h⟩ := exists_of_bind_eq_ok h
  cases h
  exact ⟨t, t', r, (table_eq_ok.1 ht).1, binds_of_bindUpdate hkey hr, ofExecuted_eq_ok.1 ht', rfl⟩

end ContentIndex

end RightsStore
