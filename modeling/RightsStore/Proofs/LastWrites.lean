import RightsStore.Proofs.History

namespace RightsStore

structure Rights.Typed (g : Rights) : Prop where
  print : g.print.IsInteger
  copy : g.copy.IsInteger

structure License.Typed (l : License) : Prop where
  id : l.id.IsText
  user : ∀ u, l.user = some u → u.id.IsText
  provider : l.provider.IsText
  rights : l.grants.Typed
  contentId : l.contentId.IsText
  status : l.status.IsInteger

def Step.Typed : Step → Prop
  | .addLicense l => l.Typed
  | .updateLicense l _ => l.Typed
  | .updateRights l _ => l.Typed
  | .setStatus id status => id.IsText ∧ status.IsInteger
  | _ => True

def Datum.orZero (d : Datum) : Datum := if d = .null then .int 0 else d

theorem Datum.orZero_of_isInteger {d : Datum} (h : d.IsInteger) :
    (if d.isEmpty then .int 0 else d) = d.orZero := by
  rcases h with rfl | ⟨n, rfl⟩
  · rfl
  · by_cases hn : n = 0
    · subst hn
      rfl
    · simp [orZero, isEmpty, document, Document.isEmpty, Leaf.isEmpty, hn]

@[simp] theorem Datum.orZero_orZero (d : Datum) : d.orZero.orZero = d.orZero := by
  by_cases h : d = .null <;> simp [orZero, h]

theorem License.storedStatus_eq {l : License} (h : l.Typed) : l.storedStatus = l.status.orZero :=
  Datum.orZero_of_isInteger h.status

theorem License.typed_storedStatus {l : License} (h : l.Typed) : l.storedStatus.IsInteger := by
  rw [storedStatus]
  split
  · exact .inr ⟨0, rfl⟩
  · exact h.status

structure License.Owns (l : License) (r : LicenseRow) : Prop where
  user : l.user = some ⟨.cell r.userId⟩
  provider : l.provider = .cell r.provider
  contentId : l.contentId = .cell r.contentId

structure Rights.Grants (g : Rights) (r : LicenseRow) : Prop where
  print : g.print = .cell r.print
  copy : g.copy = .cell r.copy
  start : g.start.bind = .ok r.start
  stop : g.stop.bind = .ok r.stop

theorem License.BindsOwner.owns {l : License} {r : LicenseRow} (h : l.BindsOwner r)
    (hl : l.Typed) : l.Owns r.convert := by
  obtain ⟨u, hu, hid⟩ := h.user
  obtain ⟨huser, huserId⟩ := hid.of_isText (hl.user u hu)
  obtain ⟨hprovider, hproviderCell⟩ := h.provider.of_isText hl.provider
  obtain ⟨hcontent, hcontentId⟩ := h.contentId.of_isText hl.contentId
  refine ⟨?_, ?_, ?_⟩
  · rw [hu, LicenseRow.convert, huserId, ← huser]
  · rw [LicenseRow.convert, hproviderCell, ← hprovider]
  · rw [LicenseRow.convert, hcontentId, ← hcontent]

theorem Rights.Binds.grants {g : Rights} {r : LicenseRow} (h : g.Binds r) (hg : g.Typed) :
    g.Grants r.convert := by
  obtain ⟨hprint, hprintCell⟩ := h.print.of_isInteger hg.print
  obtain ⟨hcopy, hcopyCell⟩ := h.copy.of_isInteger hg.copy
  refine ⟨?_, ?_, ?_, ?_⟩
  · rw [LicenseRow.convert, hprintCell, ← hprint]
  · rw [LicenseRow.convert, hcopyCell, ← hcopy]
  · rw [LicenseRow.convert, Stamp.convert_of_bind h.start, h.start]
  · rw [LicenseRow.convert, Stamp.convert_of_bind h.stop, h.stop]

theorem Datum.Bound.convert_id {d : Datum} {r : LicenseRow} (h : d.Bound r.id) (hd : d.IsText) :
    d = .cell r.convert.id := by
  obtain ⟨hid, hcell⟩ := h.of_isText hd
  rw [LicenseRow.convert, hcell, ← hid]

theorem Datum.Bound.convert_status {d : Datum} {r : LicenseRow} (h : d.Bound r.status)
    (hd : d.IsInteger) : d = .cell r.convert.status := by
  obtain ⟨hstatus, hcell⟩ := h.of_isInteger hd
  rw [LicenseRow.convert, hcell, ← hstatus]

/-- A row of id `i` that `l` was added as, when these steps have succeeded since. -/
structure LicenseRow.Written (i : String) (l : License) (after : List Step) (r : LicenseRow) :
    Prop where
  id : r.id = .text i
  issued : l.issued.bind = .ok r.issued
  owner : ((latest i Step.owner? after).getD l).Owns r
  rights : ((latest i Step.grants? after).getD l.grants).Grants r
  updated : match latest i Step.clock? after with
    | none => r.updated = .null
    | some clock => clock.Stamps r.updated
  status : ((latest i Step.status? after).getD l.status).orZero = (Datum.cell r.status).orZero
  status_isInteger : (Datum.cell r.status).IsInteger

namespace LicenseRow.Written

variable {i : String} {l : License} {after : List Step} {r new : LicenseRow}

theorem concat_of_not {x : Step} (h : Written i l after r) (hx : x.concerns i = false) :
    Written i l (after ++ [x]) r := by
  refine ⟨h.id, h.issued, ?_, ?_, ?_, ?_, h.status_isInteger⟩
  · rw [latest_concat_of_not hx]
    exact h.owner
  · rw [latest_concat_of_not hx]
    exact h.rights
  · rw [latest_concat_of_not hx]
    exact h.updated
  · rw [latest_concat_of_not hx]
    exact h.status

theorem amend {l' : License} {clock : Moment} (h : Written i l after r)
    (hx : (Step.updateLicense l' clock).concerns i = true) (howner : l'.Owns new)
    (hrights : l'.grants.Grants new) (hupdated : clock.Stamps new.updated) :
    Written i l (after ++ [.updateLicense l' clock]) (r.amend new) := by
  refine ⟨h.id, h.issued, ?_, ?_, ?_, ?_, h.status_isInteger⟩
  · rw [latest_concat hx]
    exact ⟨howner.user, howner.provider, howner.contentId⟩
  · rw [latest_concat hx]
    exact ⟨hrights.print, hrights.copy, hrights.start, hrights.stop⟩
  · rw [latest_concat hx]
    exact hupdated
  · rw [latest_concat hx]
    exact h.status

theorem regrant {l' : License} {clock : Moment} (h : Written i l after r)
    (hx : (Step.updateRights l' clock).concerns i = true) (hrights : l'.grants.Grants new)
    (hupdated : clock.Stamps new.updated) :
    Written i l (after ++ [.updateRights l' clock]) (r.regrant new) := by
  refine ⟨h.id, h.issued, ?_, ?_, ?_, ?_, h.status_isInteger⟩
  · rw [latest_concat hx]
    exact ⟨h.owner.user, h.owner.provider, h.owner.contentId⟩
  · rw [latest_concat hx]
    exact ⟨hrights.print, hrights.copy, hrights.start, hrights.stop⟩
  · rw [latest_concat hx]
    exact hupdated
  · rw [latest_concat hx]
    exact h.status

theorem restate {id status : Datum} (h : Written i l after r)
    (hx : (Step.setStatus id status).concerns i = true) (hstatus : status = .cell new.status)
    (htype : status.IsInteger) :
    Written i l (after ++ [.setStatus id status]) (r.restate new) := by
  refine ⟨h.id, h.issued, ?_, ?_, ?_, ?_, hstatus ▸ htype⟩
  · rw [latest_concat hx]
    exact ⟨h.owner.user, h.owner.provider, h.owner.contentId⟩
  · rw [latest_concat hx]
    exact ⟨h.rights.print, h.rights.copy, h.rights.start, h.rights.stop⟩
  · rw [latest_concat hx]
    exact h.updated
  · rw [latest_concat hx]
    exact congrArg Datum.orZero hstatus

theorem merged {x : Step} {merge : (old new : LicenseRow) → LicenseRow} (h : Written i l after r)
    (hid : x.license? = some (.cell new.id))
    (hmerge : x.concerns i = true → Written i l (after ++ [x]) (merge r new)) :
    Written i l (after ++ [x]) (LicenseTable.merged new merge r) := by
  cases hx : x.concerns i with
  | true =>
    have hnew : new.id = .text i := by simpa [Step.concerns, hid] using hx
    rw [LicenseTable.merged_of_matches]
    · exact hmerge hx
    · rw [h.id, hnew]
      exact Cell.matches_iff.2 ⟨nofun, rfl⟩
  | false =>
    have hnew : new.id ≠ .text i := by simpa [Step.concerns, hid] using hx
    rw [LicenseTable.merged_of_not]
    · exact h.concat_of_not hx
    · rw [Cell.matches_eq_false_iff, h.id]
      exact .inr hnew

end LicenseRow.Written

def Rows.lookUp (i : String) (t : Rows LicenseRow) : Option LicenseRow :=
  t.toList.find? ((Cell.text i).matches ·.id)

theorem Rows.lookUp_map_merged (i : String) (t : Rows LicenseRow) (new : LicenseRow)
    {merge : (old new : LicenseRow) → LicenseRow} (h : ∀ old, (merge old new).id = old.id) :
    (t.map (LicenseTable.merged new merge)).lookUp i =
      (t.lookUp i).map (LicenseTable.merged new merge) := by
  apply find?_toList_map
  intro old
  rw [LicenseTable.merged]
  split
  · rw [h]
  · rfl

theorem Rows.lookUp_eq_none {i : String} {t : Rows LicenseRow}
    (h : ∀ old ∈ t.toList, (Cell.text i).matches old.id = false) : t.lookUp i = none := by
  rw [lookUp, List.find?_eq_none]
  intro old hold
  simp [h old hold]

/-- The rows after steps that have succeeded: that of id `i` is there when it was added, and is as
it was written since. -/
structure Recorded (i : String) (history : List Step) (t : Rows LicenseRow) : Prop where
  added : ∀ r, t.lookUp i = some r → ∃ l, .addLicense l ∈ history ∧ l.id = .text i
  written : ∀ before l after, history = before ++ .addLicense l :: after → l.id = .text i →
    ∃ r, t.lookUp i = some r ∧ LicenseRow.Written i l after r

namespace Recorded

variable {i : String} {history : List Step} {t t' : Rows LicenseRow}

theorem empty (i : String) (draws : List Int) : Recorded i [] { draws } := by
  refine ⟨?_, ?_⟩
  · intro r hr
    cases hr
  · intro before l after hsplit
    simp at hsplit

theorem step (h : Recorded i history t) {x : Step} {f : LicenseRow → LicenseRow}
    (hx : ∀ l, x = .addLicense l → l.id ≠ .text i) (ht : t'.lookUp i = (t.lookUp i).map f)
    (hf : ∀ l after r, LicenseRow.Written i l after r →
      LicenseRow.Written i l (after ++ [x]) (f r)) : Recorded i (history ++ [x]) t' := by
  refine ⟨?_, ?_⟩
  · intro r hr
    rw [ht, Option.map_eq_some_iff] at hr
    obtain ⟨old, hold, -⟩ := hr
    obtain ⟨l, hl, hid⟩ := h.added old hold
    exact ⟨l, List.mem_append_left _ hl, hid⟩
  · intro before l after hsplit hid
    -- the addition is not this step, so this step has come after it
    rcases List.eq_nil_or_concat after with rfl | ⟨after, y, rfl⟩
    · obtain ⟨-, hlast⟩ := List.append_inj' hsplit rfl
      cases hlast
      exact absurd hid (hx l rfl)
    · rw [List.concat_eq_append, ← List.cons_append, ← List.append_assoc] at hsplit
      obtain ⟨hhistory, hlast⟩ := List.append_inj' hsplit rfl
      cases hlast
      obtain ⟨r, hr, hwritten⟩ := h.written before l after hhistory hid
      rw [ht, hr, List.concat_eq_append]
      exact ⟨f r, rfl, hf l after r hwritten⟩

theorem quiet (h : Recorded i history t) {x : Step} (hx : x.concerns i = false)
    (ht : t'.lookUp i = t.lookUp i) : Recorded i (history ++ [x]) t' := by
  refine h.step (f := id) ?_ ?_ ?_
  · rintro l rfl hid
    simp [Step.concerns, Step.license?, hid] at hx
  · rw [ht, Option.map_id_fun, id]
  · intro l after r hwritten
    exact hwritten.concat_of_not hx

theorem add (h : Recorded i history t) {l : License} {r : LicenseRow} (hid : l.id = .text i)
    (hnone : t.lookUp i = none) (hsome : t'.lookUp i = some r)
    (hr : LicenseRow.Written i l [] r) : Recorded i (history ++ [.addLicense l]) t' := by
  refine ⟨?_, ?_⟩
  · intro r' _
    exact ⟨l, List.mem_append_right _ List.mem_cons_self, hid⟩
  · intro before l' after hsplit hid'
    -- the addition is this step: an earlier one would have left a row
    rcases List.eq_nil_or_concat after with rfl | ⟨after, y, rfl⟩
    · obtain ⟨-, hlast⟩ := List.append_inj' hsplit rfl
      cases hlast
      exact ⟨r, hsome, hr⟩
    · rw [List.concat_eq_append, ← List.cons_append, ← List.append_assoc] at hsplit
      obtain ⟨hhistory, -⟩ := List.append_inj' hsplit rfl
      obtain ⟨r', hr', -⟩ := h.written before l' after hhistory hid'
      rw [hnone] at hr'
      cases hr'

theorem change (h : Recorded i history t) {x : Step} {new : LicenseRow}
    {merge : (old new : LicenseRow) → LicenseRow} (hmerge : ∀ old, (merge old new).id = old.id)
    (hx : ∀ l, x ≠ .addLicense l) (hid : x.license? = some (.cell new.id))
    (hwritten : ∀ l after r, LicenseRow.Written i l after r → x.concerns i = true →
      LicenseRow.Written i l (after ++ [x]) (merge r new)) :
    Recorded i (history ++ [x]) (t.map (LicenseTable.merged new merge)) := by
  apply h.step
  · intro l hl
    exact absurd hl (hx l)
  · exact t.lookUp_map_merged i new hmerge
  · intro l after r hr
    exact hr.merged hid (hwritten l after r hr)

theorem unwritten (h : Recorded i history t) {x : Step} (hx : x.writes = false) (ok : Bool)
    (ht : t' = t) : Recorded i (history ++ if ok then [x] else []) t' := by
  rw [ht]
  cases ok with
  | true => exact h.quiet (Step.concerns_of_not_writes hx i) rfl
  | false =>
    rw [if_neg Bool.false_ne_true, List.append_nil]
    exact h

variable {db db' : Database} {l : License} {clock : Moment}

theorem licenseAdded {enforce : Bool} (h : Recorded i history db.licenseEntries) (hl : l.Typed)
    (hadd : LicenseStore.add enforce db l = .ok db') :
    Recorded i (history ++ [.addLicense l]) db'.licenseEntries := by
  obtain ⟨t, t', r, ht, hr, hinsert, rfl⟩ := LicenseStore.add_eq_ok hadd
  obtain ⟨-, hfresh, -, rfl⟩ := LicenseTable.enter_eq_ok hinsert
  have hid : l.id = .cell r.convert.id := hr.id.convert_id hl.id
  rw [Database.licenseEntries_eq ht] at h
  by_cases hi : r.convert.id = .text i
  · have hnone : ∀ old ∈ t.entries.toList, (Cell.text i).matches old.id = false := by
      rw [← hi]
      exact hfresh
    apply h.add (r := r.convert)
    · rw [hid, hi]
    · exact Rows.lookUp_eq_none hnone
    · apply Rows.find?_toList_add _ hnone
      rw [hi]
      exact Cell.matches_iff.2 ⟨nofun, rfl⟩
    · have htype := License.typed_storedStatus hl
      have hstatus := hr.status.convert_status htype
      refine ⟨hi, ?_, hr.owner.owns hl, hr.rights.grants hl.rights, ?_, ?_, hstatus ▸ htype⟩
      · rw [LicenseRow.convert, Stamp.convert_of_bind hr.issued, hr.issued]
      · rw [latest_nil, LicenseRow.convert, hr.updated]
        rfl
      · rw [← hstatus, License.storedStatus_eq hl, Datum.orZero_orZero]
        rfl
  · apply h.quiet
    · simp [Step.concerns, Step.license?, hid, hi]
    · apply Rows.find?_toList_add_of_not
      rw [Cell.matches_eq_false_iff]
      exact .inr (Ne.symm hi)

theorem licenseUpdated {enforce : Bool} (h : Recorded i history db.licenseEntries)
    (hl : l.Typed) (hupdate : LicenseStore.update enforce db l clock = .ok db') :
    Recorded i (history ++ [.updateLicense l clock]) db'.licenseEntries := by
  obtain ⟨t, t', n, r, ht, hr, hmodify, rfl⟩ := LicenseStore.update_eq_ok hupdate
  obtain ⟨rfl, -⟩ := LicenseTable.modify_eq_ok hmodify
  rw [Database.licenseEntries_eq ht] at h
  apply h.change
  · intro old
    rfl
  · intro l' hl'
    cases hl'
  · rw [Step.license?, hr.id.convert_id hl.id]
  · intro l' after old hold hx
    exact hold.amend hx (hr.owner.owns hl) (hr.rights.grants hl.rights) hr.updated.convert

theorem rightsUpdated {n : Nat} (h : Recorded i history db.licenseEntries) (hl : l.Typed)
    (hupdate : LicenseStore.updateRights db l clock = .ok (db', n)) :
    Recorded i (history ++ [.updateRights l clock]) db'.licenseEntries := by
  obtain ⟨t, t', r, ht, hr, hmodify, rfl⟩ := LicenseStore.updateRights_eq_ok hupdate
  obtain ⟨rfl, -⟩ := LicenseTable.modify_eq_ok hmodify
  rw [Database.licenseEntries_eq ht] at h
  apply h.change
  · intro old
    rfl
  · intro l' hl'
    cases hl'
  · rw [Step.license?, hr.id.convert_id hl.id]
  · intro l' after old hold hx
    exact hold.regrant hx (hr.rights.grants hl.rights) hr.updated.convert

theorem statusSet {id status : Datum} (h : Recorded i history db.licenseEntries)
    (hid : id.IsText) (hstatus : status.IsInteger)
    (hset : LicenseStore.setStatus db id status = .ok db') :
    Recorded i (history ++ [.setStatus id status]) db'.licenseEntries := by
  obtain ⟨t, t', n, r, ht, hr, hmodify, rfl⟩ := LicenseStore.setStatus_eq_ok hset
  obtain ⟨rfl, -⟩ := LicenseTable.modify_eq_ok hmodify
  rw [Database.licenseEntries_eq ht] at h
  apply h.change
  · intro old
    rfl
  · intro l' hl'
    cases hl'
  · rw [Step.license?, ← hr.id.convert_id hid]
  · intro l' after old hold hx
    exact hold.restate hx (hr.status.convert_status hstatus) hstatus

theorem effect {d : Dialect} {enforce ok : Bool} {x : Step}
    (h : Recorded i history db.licenseEntries) (hx : x.Typed) (he : x.Effect d enforce ok db db') :
    Recorded i (history ++ if ok then [x] else []) db'.licenseEntries := by
  cases he with
  | failed =>
    rw [if_neg Bool.false_ne_true, List.append_nil]
    exact h
  | read hread => exact h.unwritten hread true rfl
  | prepared hlicense => exact h.unwritten rfl ok hlicense
  | opened => exact h.unwritten rfl ok (db.openAll_grows d _).license
  | contentAdded hadd =>
    obtain ⟨t, t', r, -, -, -, rfl⟩ := ContentIndex.add_eq_ok hadd
    exact h.quiet rfl rfl
  | contentUpdated hupdate =>
    obtain ⟨t, t', r, -, -, -, rfl⟩ := ContentIndex.update_eq_ok hupdate
    exact h.quiet rfl rfl
  | licenseAdded hadd => exact h.licenseAdded hx hadd
  | licenseUpdated hupdate => exact h.licenseUpdated hx hupdate
  | rightsUpdated hupdate => exact h.rightsUpdated hx hupdate
  | statusSet hset => exact h.statusSet hx.1 hx.2 hset

end Recorded

structure Rights.UtcForm (g r : Rights) : Prop where
  print : r.print = g.print
  copy : r.copy = g.copy
  start : g.start.UtcForm r.start
  stop : g.stop.UtcForm r.stop

/-- What is read of a license that was added as `l`, when these steps have succeeded since. -/
structure License.LastWritten (i : String) (l : License) (after : List Step) (g : License) :
    Prop where
  id : g.id = .text i
  issued : l.issued.UtcForm g.issued
  user : g.user = ((latest i Step.owner? after).getD l).user
  provider : g.provider = ((latest i Step.owner? after).getD l).provider
  contentId : g.contentId = ((latest i Step.owner? after).getD l).contentId
  rights : ∃ r, g.rights = some r ∧ ((latest i Step.grants? after).getD l.grants).UtcForm r
  updated : match latest i Step.clock? after with
    | none => g.updated = .null
    | some clock => ∃ u, g.updated = .moment u ∧ u.offset = some .utc ∧
      u.instant = clock.instant - clock.instant % Calendar.second
  status : g.status = ((latest i Step.status? after).getD l.status).orZero

theorem Moment.Stamps.readStamp {clock : Moment} {c : Cell} (h : clock.Stamps c) :
    ∃ u, c.readStamp = .ok (.moment u) ∧ u.offset = some .utc ∧
      u.instant = clock.instant - clock.instant % Calendar.second := by
  obtain ⟨t, ht, hc⟩ := h.isMoment
  have hutc := offset_of_utc? ht
  refine ⟨t.wholeSecond, Cell.readStamp_of_isMoment hc, hutc, ?_⟩
  rw [instant_wholeSecond hutc, instant_utc? ht]

def LicenseRow.record (r : LicenseRow) (issued updated start stop : Stamp) : License where
  id := r.id
  user := some ⟨r.userId⟩
  provider := r.provider
  issued := issued
  updated := updated
  rights := some ⟨r.print, r.copy, start, stop⟩
  contentId := r.contentId
  status := if (Datum.cell r.status).isEmpty then .int 0 else r.status

theorem LicenseRow.read_eq {r : LicenseRow} {issued updated start stop : Stamp}
    (hissued : r.issued.readStamp = .ok issued) (hupdated : r.updated.readStamp = .ok updated)
    (hstart : r.start.readStamp = .ok start) (hstop : r.stop.readStamp = .ok stop) :
    r.read = .ok (r.record issued updated start stop) := by
  rw [read, hissued, hupdated, hstart, hstop]
  rfl

theorem LicenseRow.Written.read {i : String} {l : License} {after : List Step} {r : LicenseRow}
    (h : Written i l after r) : ∃ g, r.read = .ok g ∧ l.LastWritten i after g := by
  obtain ⟨issued, hissued, hissuedForm⟩ := Stamp.readStamp_of_bind h.issued
  obtain ⟨start, hstart, hstartForm⟩ := Stamp.readStamp_of_bind h.rights.start
  obtain ⟨stop, hstop, hstopForm⟩ := Stamp.readStamp_of_bind h.rights.stop
  have hupdated : ∃ s, r.updated.readStamp = .ok s ∧ match latest i Step.clock? after with
      | none => s = .null
      | some clock => ∃ u, s = .moment u ∧ u.offset = some .utc ∧
        u.instant = clock.instant - clock.instant % Calendar.second := by
    have hrow := h.updated
    cases hclock : latest i Step.clock? after with
    | none =>
      rw [hclock] at hrow
      rw [hrow]
      exact ⟨.null, rfl, rfl⟩
    | some clock =>
      rw [hclock] at hrow
      obtain ⟨u, hu, hutc, hinstant⟩ := hrow.readStamp
      exact ⟨.moment u, hu, u, rfl, hutc, hinstant⟩
  obtain ⟨updated, hupdated, hupdatedForm⟩ := hupdated
  refine ⟨_, read_eq hissued hupdated hstart hstop, ?_⟩
  refine ⟨congrArg _ h.id, hissuedForm, ?_, ?_, ?_, ?_, hupdatedForm, ?_⟩
  · rw [h.owner.user]
    rfl
  · rw [h.owner.provider]
    rfl
  · rw [h.owner.contentId]
    rfl
  · exact ⟨_, rfl, h.rights.print.symm, h.rights.copy.symm, hstartForm, hstopForm⟩
  · rw [h.status]
    exact Datum.orZero_of_isInteger h.status_isInteger

def Reply.license? (r : Reply) : Option License :=
  match r.answer with
  | .ok (.license g) => some g
  | _ => none

namespace Session

theorem recorded_run (d : Dialect) {w : Wiring} (draws : Draws) (hw : w.isFresh = true)
    {xs : List Step} (hxs : ∀ x ∈ xs, x.isRaw = false ∧ x.Typed) (i : String) :
    ((start d w draws).run xs).2.Ready ∧
      Recorded i ((start d w draws).succeeded xs)
        ((start d w draws).run xs).2.database.licenseEntries := by
  apply history_induction (P := fun history s => s.Ready ∧ Recorded i history
    s.database.licenseEntries) ⟨ready_start d draws hw, Recorded.empty i _⟩ ?_ hxs
  rintro history s x ⟨hready, hrecorded⟩ ⟨hraw, htyped⟩
  exact ⟨(ready_step hready x).1, hrecorded.effect htyped (s.step_effect hraw)⟩

theorem answer_getLicense {s : Session} (h : s.Ready) (hopen : s.licenses = true) (i : String) :
    (s.step (.getLicense (.text i))).1.answer =
      match s.database.licenseEntries.lookUp i with
      | none => .error (.notFound .license)
      | some r => r.read.map .license := by
  obtain ⟨t, ht⟩ := Option.isSome_iff_exists.1 (h.licenses hopen)
  have hget : LicenseStore.get s.database (.text i) =
      match s.database.licenseEntries.lookUp i with
      | none => .error (.notFound .license)
      | some r => r.read := by
    rw [Database.licenseEntries_eq ht, LicenseStore.get, LicenseStore.find,
      LicenseStore.table_eq_ok.2 ht]
    rfl
  rw [step_eq, outcome, onStore, isOpen, if_pos hopen, reading, hget]
  cases s.database.licenseEntries.lookUp i <;> rfl

/-- Whatever has been done in between, an id reads as a license exactly if one was added under it,
and each field is as the last successful step left it that writes the field: user, provider and
content follow the updates, the rights and the time of the change follow also the changes of
rights, the status follows its own changes, and the issue stays. Only what came after the addition
counts: before it the same steps succeed and change nothing. -/
theorem getLicense_lastWritten (d : Dialect) {w : Wiring} (draws : Draws) (hw : w.isFresh = true)
    {xs : List Step} (hxs : ∀ x ∈ xs, x.isRaw = false ∧ x.Typed) (i : String)
    (hopen : ((start d w draws).run xs).2.licenses = true) :
    let answer := (((start d w draws).run xs).2.step (.getLicense (.text i))).1.answer
    let history := (start d w draws).succeeded xs
    (answer = .error (.notFound .license) ↔ ∀ l, .addLicense l ∈ history → l.id ≠ .text i) ∧
      ∀ before l after, history = before ++ .addLicense l :: after → l.id = .text i →
        ∃ g, answer = .ok (.license g) ∧ l.LastWritten i after g := by
  intro answer history
  obtain ⟨hready, hrecorded⟩ := recorded_run d draws hw hxs i
  have hanswer : answer = _ := answer_getLicense hready hopen i
  have hwritten : ∀ before l after, history = before ++ .addLicense l :: after →
      l.id = .text i → ∃ g, answer = .ok (.license g) ∧ l.LastWritten i after g := by
    intro before l after hsplit hid
    obtain ⟨r, hr, hwritten⟩ := hrecorded.written before l after hsplit hid
    obtain ⟨g, hg, hlast⟩ := hwritten.read
    rw [hanswer, hr]
    refine ⟨g, ?_, hlast⟩
    simp only [hg]
    rfl
  refine ⟨⟨?_, ?_⟩, hwritten⟩
  · intro hmissing l hl hid
    obtain ⟨before, after, hsplit⟩ := List.append_of_mem hl
    obtain ⟨g, hg, -⟩ := hwritten before l after hsplit hid
    rw [hg] at hmissing
    cases hmissing
  · intro hnone
    cases hr : ((start d w draws).run xs).2.database.licenseEntries.lookUp i with
    | none => rw [hanswer, hr]
    | some r =>
      obtain ⟨l, hl, hid⟩ := hrecorded.added r hr
      exact absurd hid (hnone l hl)

theorem getLicense_of_update_after_add :
    let clock : Moment := ⟨0, by decide, some .utc⟩
    let added : License := { id := .text "a", issued := .moment clock, contentId := .text "c" }
    let late : License := { id := .text "a", user := some ⟨.text "u"⟩, contentId := .text "c" }
    let before : List Step := [
      .openStore .content, .addContent { id := .text "c" }, .openStore .license]
    let after : List Step := [.updateLicense late clock]
    let xs := before ++ .addLicense added :: after
    ∃ g, (((start .sqlite (.separate true)).run xs).2.step (.getLicense (.text "a"))).1.answer =
      .ok (.license g) ∧ added.LastWritten "a" after g := by
  intro clock added late before after xs
  have hadded : added.Typed := by
    refine ⟨.inr ⟨_, rfl⟩, ?_, .inr ⟨_, rfl⟩, ⟨.inl rfl, .inl rfl⟩, .inr ⟨_, rfl⟩, .inr ⟨_, rfl⟩⟩
    rintro u ⟨⟩
    exact .inr ⟨_, rfl⟩
  have hlate : late.Typed := by
    refine ⟨.inr ⟨_, rfl⟩, ?_, .inr ⟨_, rfl⟩, ⟨.inl rfl, .inl rfl⟩, .inr ⟨_, rfl⟩, .inr ⟨_, rfl⟩⟩
    rintro u ⟨⟩
    exact .inr ⟨_, rfl⟩
  have hxs : ∀ x ∈ xs, x.isRaw = false ∧ x.Typed := by
    simp only [xs, before, after, List.cons_append, List.nil_append, List.forall_mem_cons]
    exact ⟨⟨rfl, trivial⟩, ⟨rfl, trivial⟩, ⟨rfl, trivial⟩, ⟨rfl, hadded⟩, ⟨rfl, hlate⟩,
      List.forall_mem_nil _⟩
  have hopen : ((start .sqlite (.separate true)).run xs).2.licenses = true := by decide +kernel
  have hall : ((start .sqlite (.separate true)).run xs).1.all Reply.succeeded = true := by
    decide +kernel
  exact (getLicense_lastWritten .sqlite (w := .separate true) {} rfl hxs "a" hopen).2 before added
    after (succeeded_eq_self hall) rfl

/-- An update of a license that is not there yet succeeds, and is not seen once the license is
added. -/
theorem getLicense_of_update_before_add :
    let s := start .sqlite (.separate true)
    let clock : Moment := ⟨0, by decide, some .utc⟩
    let early : License := { id := .text "a", user := some ⟨.text "u"⟩, contentId := .text "c" }
    let added : License := { id := .text "a", issued := .moment clock, contentId := .text "c" }
    let xs : List Step := [
      .openStore .content, .addContent { id := .text "c" }, .openStore .license,
      .updateLicense early clock, .addLicense added]
    latest "a" Step.owner? (s.succeeded xs) = some early ∧
      ((s.run xs).2.step (.getLicense (.text "a"))).1.license?.map License.user =
        some added.user ∧ added.user ≠ early.user := by
  decide +kernel

end Session

end RightsStore
