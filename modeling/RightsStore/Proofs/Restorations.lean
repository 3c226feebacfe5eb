import RightsStore.Proofs.ExternalForm

namespace RightsStore

open Calendar (hour)

structure Database.Filled (db : Database) : Prop where
  hasType : db.HasType
  contents : ∀ r ∈ db.contentRows, r.checkNulls = .ok ()
  licenses : ∀ r ∈ db.licenseRows, r.checkNulls = .ok ()

namespace Database.Filled

variable {db db' : Database}

theorem of_entries (h : db.Filled) (htype : db'.HasType)
    (hcontent : db'.contentEntries = db.contentEntries)
    (hlicense : db'.licenseEntries = db.licenseEntries) : db'.Filled := by
  refine ⟨htype, ?_, ?_⟩
  · rw [contentRows_eq, hcontent, ← contentRows_eq]
    exact h.contents
  · rw [licenseRows_eq, hlicense, ← licenseRows_eq]
    exact h.licenses

theorem contentAdded (h : db.Filled) {c : Content} (hadd : ContentIndex.add db c = .ok db') :
    db'.Filled := by
  obtain ⟨t, t', r, ht, -, hinsert, rfl⟩ := ContentIndex.add_eq_ok hadd
  obtain ⟨hnulls, -, rfl⟩ := ContentTable.insert_eq_ok hinsert
  refine ⟨h.hasType.put ht rfl, ?_, h.licenses⟩
  intro r' hr'
  rcases Rows.mem_toList_add.1 hr' with rfl | hold
  · exact hnulls
  · apply h.contents
    rw [contentRows_eq, contentEntries_eq ht]
    exact hold

theorem contentUpdated (h : db.Filled) {c : Content} (hupdate : ContentIndex.update db c = .ok db') :
    db'.Filled := by
  obtain ⟨t, t', r, ht, -, hchange, rfl⟩ := ContentIndex.update_eq_ok hupdate
  obtain ⟨hnulls, rfl⟩ := ContentTable.update_eq_ok hchange
  have hrows : db.contentRows = t.rows := by rw [contentRows_eq, contentEntries_eq ht]; rfl
  refine ⟨h.hasType.put ht rfl, ?_, h.licenses⟩
  change ∀ r' ∈ (t.entries.map _).toList, _
  rw [Rows.toList_map, List.forall_mem_map]
  intro old hold
  rw [ContentTable.replaced]
  split
  · rename_i hmatches
    exact hnulls ⟨old, hold, hmatches⟩
  · apply h.contents
    rw [hrows]
    exact hold

theorem licenseAdded (h : db.Filled) {enforce : Bool} {l : License}
    (hadd : LicenseStore.add enforce db l = .ok db') : db'.Filled := by
  obtain ⟨t, t', r, ht, -, hinsert, rfl⟩ := LicenseStore.add_eq_ok hadd
  obtain ⟨hnulls, -, -, rfl⟩ := LicenseTable.enter_eq_ok hinsert
  refine ⟨h.hasType, h.contents, ?_⟩
  intro r' hr'
  rcases Rows.mem_toList_add.1 hr' with rfl | hold
  · exact hnulls
  · apply h.licenses
    rw [licenseRows_eq, licenseEntries_eq ht]
    exact hold

theorem licenseChanged (h : db.Filled) {t : LicenseTable} (ht : db.license = some t)
    {new : LicenseRow} {merge : (old new : LicenseRow) → LicenseRow}
    (hmerge : ∀ old : LicenseRow, old.checkNulls = .ok () → (merge old new).checkNulls = .ok ()) :
    { db with license := some { t with
      entries := t.entries.map (LicenseTable.merged new merge) } }.Filled := by
  have hrows : db.licenseRows = t.rows := by rw [licenseRows_eq, licenseEntries_eq ht]; rfl
  refine ⟨h.hasType, h.contents, ?_⟩
  change ∀ r' ∈ (t.entries.map _).toList, _
  rw [Rows.toList_map, List.forall_mem_map]
  intro old hold
  rw [← LicenseTable.rows, ← hrows] at hold
  rw [LicenseTable.merged]
  split
  · exact hmerge old (h.licenses old hold)
  · exact h.licenses old hold

theorem licenseUpdated (h : db.Filled) {enforce : Bool} {l : License} {clock : Moment}
    (hupdate : LicenseStore.update enforce db l clock = .ok db') : db'.Filled := by
  obtain ⟨t, t', n, r, ht, -, hmodify, rfl⟩ := LicenseStore.update_eq_ok hupdate
  obtain ⟨heq, ⟨-, rfl⟩ | ⟨-, found, -, hcheck⟩⟩ := LicenseTable.modify_eq_ok hmodify
  · exact h.of_entries h.hasType rfl (licenseEntries_eq ht).symm
  · obtain ⟨hnulls, -⟩ := bind_unit_eq_ok.1 hcheck
    obtain ⟨huser, hprovider, -, hcontent⟩ := LicenseRow.checkNulls_eq_ok.1 hnulls
    rw [heq]
    -- one row was checked, and the new row gives the same to every other
    apply h.licenseChanged ht
    intro old hold
    obtain ⟨-, -, hissued, -⟩ := LicenseRow.checkNulls_eq_ok.1 hold
    exact LicenseRow.checkNulls_eq_ok.2 ⟨huser, hprovider, hissued, hcontent⟩

theorem rightsUpdated (h : db.Filled) {l : License} {clock : Moment} {n : Nat}
    (hupdate : LicenseStore.updateRights db l clock = .ok (db', n)) : db'.Filled := by
  obtain ⟨t, t', r, ht, -, hmodify, rfl⟩ := LicenseStore.updateRights_eq_ok hupdate
  obtain ⟨rfl, -⟩ := LicenseTable.modify_eq_ok hmodify
  exact h.licenseChanged ht fun _ hold => hold

theorem statusSet (h : db.Filled) {id status : Datum}
    (hset : LicenseStore.setStatus db id status = .ok db') : db'.Filled := by
  obtain ⟨t, t', n, r, ht, -, hmodify, rfl⟩ := LicenseStore.setStatus_eq_ok hset
  obtain ⟨rfl, -⟩ := LicenseTable.modify_eq_ok hmodify
  exact h.licenseChanged ht fun _ hold => hold

theorem effect (h : db.Filled) {d : Dialect} {enforce ok : Bool} {x : Step}
    (hx : x.isFixture = false) (he : x.Effect d enforce ok db db') : db'.Filled := by
  cases he with
  | failed => exact h
  | read => exact h
  | prepared => cases hx
  | opened =>
    rename_i t ts
    have hgrows := db.openAll_grows d ts
    exact h.of_entries (hgrows.hasType h.hasType) (hgrows.content h.hasType) hgrows.license
  | contentAdded hadd => exact h.contentAdded hadd
  | contentUpdated hupdate => exact h.contentUpdated hupdate
  | licenseAdded hadd => exact h.licenseAdded hadd
  | licenseUpdated hupdate => exact h.licenseUpdated hupdate
  | rightsUpdated hupdate => exact h.rightsUpdated hupdate
  | statusSet hset => exact h.statusSet hset

end Database.Filled

theorem LicenseRow.full_of_read {r : LicenseRow} {l : License} (h : r.read = .ok l)
    (hnulls : r.checkNulls = .ok ()) (hid : r.id ≠ .null) (hissued : r.issued.IsStamp) : l.Full := by
  obtain ⟨issued, hread, h⟩ := exists_of_bind_eq_ok h
  obtain ⟨updated, -, h⟩ := exists_of_bind_eq_ok h
  obtain ⟨start, -, h⟩ := exists_of_bind_eq_ok h
  obtain ⟨stop, -, h⟩ := exists_of_bind_eq_ok h
  cases h
  obtain ⟨huser, hprovider, hnull, hcontent⟩ := checkNulls_eq_ok.1 hnulls
  obtain ⟨u, hu⟩ := hissued.resolve_left hnull
  rw [Cell.readStamp_of_isMoment hu] at hread
  cases hread
  exact {
    id := by simpa using hid
    user := ⟨⟨r.userId⟩, rfl, by simpa using huser⟩
    provider := by simpa using hprovider
    issued := by simp
    rights := rfl
    contentId := by simpa using hcontent }

namespace LicenseStore

variable {db : Database} {t : LicenseTable} {rows : List LicenseRow}

theorem list_subset (ht : db.license = some t) {contentId size number : Datum}
    (h : list db contentId size number = .ok rows) : rows ⊆ t.rows := by
  obtain ⟨page, -, h⟩ := exists_of_bind_eq_ok h
  obtain ⟨t', ht', h⟩ := exists_of_bind_eq_ok h
  obtain ⟨c, -, h⟩ := exists_of_bind_eq_ok h
  obtain ⟨⟨limit, offset⟩, -, h⟩ := exists_of_bind_eq_ok h
  obtain ⟨w, -, h⟩ := exists_of_bind_eq_ok h
  cases h
  cases ht.symm.trans (table_eq_ok.1 ht')
  exact fun r hr => (List.mem_filter.1 ((w.apply_sublist _).subset hr)).1

theorem listAll_subset (ht : db.license = some t) {size number : Datum}
    (h : listAll db size number = .ok rows) : rows ⊆ t.rows := by
  obtain ⟨page, -, h⟩ := exists_of_bind_eq_ok h
  obtain ⟨t', ht', h⟩ := exists_of_bind_eq_ok h
  obtain ⟨⟨limit, offset⟩, -, h⟩ := exists_of_bind_eq_ok h
  obtain ⟨w, -, h⟩ := exists_of_bind_eq_ok h
  cases h
  cases ht.symm.trans (table_eq_ok.1 ht')
  exact fun r hr => List.mem_mergeSort.1 ((w.apply_sublist _).subset hr)

end LicenseStore

namespace Session

structure Identified (s : Session) : Prop where
  contents : ∀ r ∈ s.database.contentRows, r.id ≠ .null
  licenses : ∀ r ∈ s.database.licenseRows, r.id ≠ .null

theorem filled_run (d : Dialect) (w : Wiring) (draws : Draws) {xs : List Step}
    (hxs : ∀ x ∈ xs, x.isRaw = false ∧ x.isFixture = false) :
    ((start d w draws).run xs).2.database.Filled := by
  have hstart : (start d w draws).database.Filled :=
    ⟨nofun, List.forall_mem_nil _, List.forall_mem_nil _⟩
  refine run_induction (P := fun s => s.database.Filled) hstart ?_ hxs
  rintro s x h ⟨hraw, hfixture⟩
  exact h.effect hfixture (s.step_effect hraw)

namespace Legible

variable {history : List Step} {s : Session}

theorem full_current (h : Legible history s) (hfilled : s.database.Filled) (hids : s.Identified)
    {c : Content} (hc : c ∈ added history) : (current history c).Full := by
  have hmem : current history c ∈ s.database.contentEntries.toList.map ContentRow.record := by
    rw [h.indexes.lists.listed.records]
    exact List.mem_map_of_mem hc
  obtain ⟨r, hr, hrecord⟩ := List.mem_map.1 hmem
  rw [← Database.contentRows_eq] at hr
  obtain ⟨-, hlocation, htype⟩ := ContentRow.checkNulls_eq_ok.1 (hfilled.contents r hr)
  rw [← hrecord]
  exact {
    id := by simpa [ContentRow.record] using hids.contents r hr
    location := by simpa [ContentRow.record] using hlocation
    mediaType := by simpa [ContentRow.record] using htype }

theorem full_of_holds (h : Legible history s) (hfilled : s.database.Filled) (hids : s.Identified)
    {l : License} (hl : s.Holds l) : l.Full := by
  obtain ⟨r, hr, hread⟩ := hl
  have hstamped := h.orderly.stamped r hr
  rw [← Database.licenseRows_eq] at hr
  exact LicenseRow.full_of_read hread (hfilled.licenses r hr) (hids.licenses r hr) hstamped.issued

theorem restores_contents (h : Legible history s) (hfilled : s.database.Filled)
    (hids : s.Identified) (hopen : s.index = true) : ∃ (cs : List Content) (e : Document),
      (s.step .listContents).1.answer = .ok (.items (cs.map .content)) ∧
        (s.step .dumpContents).1.answer = .ok (.document e) ∧
        Schema.content.Restores e (cs.map Content.document) := by
  have hcarries : ∀ d ∈ ((added history).map (current history)).map Content.document,
      ∃ fields, d = .object fields ∧ Schema.content.Carries fields := by
    rw [List.map_map, List.forall_mem_map]
    exact fun c hc => Schema.carries_content (typed_current h.contents hc)
      (h.full_current hfilled hids hc)
  obtain ⟨e, he⟩ := Schema.restores_of_carries hcarries
  have hdump : Schema.content.dumpMany
      (((added history).map (.content ∘ current history)).map Item.document) = .ok e := by
    rw [← he.dump, List.map_map, List.map_map]
    exact Schema.dumpMany_congr (fun c => Schema.dump_object Schema.hidesKey_content _) _
  refine ⟨_, e, ?_, ?_, he⟩
  · rw [List.map_map]
    exact h.indexes.answer_listContents hopen
  · rw [step_eq, outcome, h.indexes.answer_listing hopen, answerDump, hdump]

theorem restores_page (h : Legible history s) (hfilled : s.database.Filled) (hids : s.Identified)
    (hopen : s.licenses = true) {listed : Except Failure (List LicenseRow)}
    (hlisted : ∀ t rows, s.database.license = some t → listed = .ok rows → rows ⊆ t.rows)
    {items : List Item} (hitems :
      (s.onStore .license (s.listing listed licenseItem answerItems)).1.answer =
        .ok (.items items)) : ∃ (ls : List License) (e : Document), items = ls.map .report ∧
      (s.onStore .license (s.listing listed licenseItem
        (answerDump Schema.licenseReport))).1.answer = .ok (.document e) ∧
      Schema.licenseReport.Restores e (ls.map License.document) := by
  cases listed with
  | error f =>
    rw [onStore, isOpen, if_pos hopen] at hitems
    cases hitems
  | ok rows =>
    have hrows : ∀ t, s.database.license = some t →
        ∃ rows', Except.ok rows = (.ok rows' : Except Failure _) ∧ rows' ⊆ t.rows :=
      fun t ht => ⟨rows, rfl, hlisted t rows ht rfl⟩
    obtain ⟨ls, hls, hanswer⟩ := h.answer_listing hopen hrows
    have hcarries : ∀ d ∈ ls.map License.document,
        ∃ fields, d = .object fields ∧ Schema.licenseReport.Carries fields := by
      rw [List.forall_mem_map]
      intro l hl
      obtain ⟨hholds, htyped, hlegible⟩ := hls l hl
      exact Schema.carries_licenseReport htyped hlegible (h.full_of_holds hfilled hids hholds)
    obtain ⟨e, he⟩ := Schema.restores_of_carries hcarries
    have hdocuments : (ls.map Item.report).map Item.document = ls.map License.document := by
      rw [List.map_map]
      rfl
    rw [hanswer answerItems] at hitems
    cases hitems
    refine ⟨ls, e, rfl, ?_, he⟩
    rw [hanswer, answerDump, hdocuments, he.dump]

end Legible

/-- Whatever has been stored of the declared types, contents and reports are dumped, and what is
loaded of the dump are the same documents with all their fields: the moments at their instants and
in UTC, the nulls where they were. Every page with numbers that fit is there to be dumped. -/
theorem stores_restored (d : Dialect) {w : Wiring} (draws : Draws) (hw : w.isFresh = true)
    {xs : List Step}
    (hxs : ∀ x ∈ xs, x.isRaw = false ∧ x.isFixture = false ∧ x.Typed ∧ x.ContentTyped)
    (hids : ((start d w draws).run xs).2.Identified) :
    let s := ((start d w draws).run xs).2
    let answer := fun x : Step => (s.step x).1.answer
    (s.index = true → ∃ (cs : List Content) (e : Document),
        answer .listContents = .ok (.items (cs.map .content)) ∧
          answer .dumpContents = .ok (.document e) ∧
          Schema.content.Restores e (cs.map Content.document)) ∧
      (s.licenses = true →
        (∀ size number items, answer (.listAllLicenses size number) = .ok (.items items) →
          ∃ (ls : List License) (e : Document), items = ls.map .report ∧
            answer (.dumpLicenses size number) = .ok (.document e) ∧
            Schema.licenseReport.Restores e (ls.map License.document)) ∧
        (∀ contentId size number items,
          answer (.listLicenses contentId size number) = .ok (.items items) →
          ∃ (ls : List License) (e : Document), items = ls.map .report ∧
            Schema.licenseReport.Restores e (ls.map License.document)) ∧
        ∀ size number : Int, fitsWord size = true → fitsWord (number * size) = true →
          (∃ items, answer (.listAllLicenses (.int size) (.int number)) = .ok (.items items)) ∧
          ∀ contentId : Datum, contentId.IsText → ∃ items,
            answer (.listLicenses contentId (.int size) (.int number)) = .ok (.items items)) := by
  intro s answer
  have h := legible_run d draws hw hxs
  have hfilled := filled_run d w draws fun x hx => ⟨(hxs x hx).1, (hxs x hx).2.1⟩
  refine ⟨h.restores_contents hfilled hids, ?_⟩
  intro hopen
  refine ⟨?_, ?_, ?_⟩
  · intro size number items hitems
    simp only [answer, step_eq, outcome] at hitems ⊢
    exact h.restores_page hfilled hids hopen (fun t rows ht => LicenseStore.listAll_subset ht) hitems
  · intro contentId size number items hitems
    simp only [answer, step_eq, outcome] at hitems
    obtain ⟨ls, e, hls, -, he⟩ := h.restores_page hfilled hids hopen
      (fun t rows ht => LicenseStore.list_subset ht) hitems
    exact ⟨ls, e, hls, he⟩
  · intro size number hsize hoffset
    refine ⟨?_, ?_⟩
    · obtain ⟨ls, -, hls⟩ := h.listAllLicenses hopen hsize hoffset
      exact ⟨_, hls⟩
    · intro contentId hid
      obtain ⟨ls, -, hls⟩ := h.listLicenses hopen hsize hoffset hid
      exact ⟨_, hls⟩

theorem stores_restored_of_license_updated :
    let a : License := {
      id := .text "a", user := some ⟨.text "u"⟩
      issued := .moment ⟨hour, by decide, some ⟨hour, by decide, by decide⟩⟩
      rights := some { print := .int 3 }, contentId := .text "c" }
    let b : License := { a with id := .text "b", issued := .moment ⟨1, by decide, none⟩ }
    let c : Content := { id := .text "c", length := .int 9 }
    let d : Content := { id := .text "d", location := .text "/d" }
    let xs : List Step := [
      .openStore .license, .addContent c, .addContent d, .addLicense a, .addLicense b,
      .updateLicense a ⟨0, by decide, none⟩]
    let s := ((start .sqlite (.container false false)).run xs).2
    let answer := fun x : Step => (s.step x).1.answer
    let stored (l : License) (issued updated : Stamp) : License :=
      { l with issued, updated, rights := some { l.grants with copy := .null } }
    let midnight : Stamp := .moment ⟨0, by decide, some .utc⟩
    (∃ e, answer .dumpContents = .ok (.document e) ∧
        Schema.content.Restores e [c.document, d.document]) ∧
      ∃ e, answer (.listLicenses (.text "c") (.int 10) (.int 0)) = .ok (.items [
          .report (stored a midnight midnight),
          .report (stored b (.moment ⟨1, by decide, some .utc⟩) .null)]) ∧
        Schema.licenseReport.Restores e [
          (stored a midnight midnight).document,
          (stored b (.moment ⟨1, by decide, some .utc⟩) .null).document] := by
  intro a b c d xs s answer stored midnight
  have hlicense : a.Typed ∧ b.Typed := by
    refine ⟨⟨.inr ⟨_, rfl⟩, ?_, .inr ⟨_, rfl⟩, ⟨.inr ⟨_, rfl⟩, .inl rfl⟩, .inr ⟨_, rfl⟩,
      .inr ⟨_, rfl⟩⟩, ⟨.inr ⟨_, rfl⟩, ?_, .inr ⟨_, rfl⟩, ⟨.inr ⟨_, rfl⟩, .inl rfl⟩, .inr ⟨_, rfl⟩,
      .inr ⟨_, rfl⟩⟩⟩
    · rintro u ⟨⟩
      exact .inr ⟨_, rfl⟩
    · rintro u ⟨⟩
      exact .inr ⟨_, rfl⟩
  have hcontent : c.Typed ∧ d.Typed :=
    ⟨⟨.inr ⟨_, rfl⟩, .inr ⟨_, rfl⟩, .inr ⟨_, rfl⟩, .inl rfl, .inr ⟨_, rfl⟩⟩,
      .inr ⟨_, rfl⟩, .inr ⟨_, rfl⟩, .inl rfl, .inl rfl, .inr ⟨_, rfl⟩⟩
  have hxs : ∀ x ∈ xs, x.isRaw = false ∧ x.isFixture = false ∧ x.Typed ∧ x.ContentTyped := by
    simp only [xs, List.forall_mem_cons]
    exact ⟨⟨rfl, rfl, trivial, trivial⟩, ⟨rfl, rfl, trivial, hcontent.1⟩,
      ⟨rfl, rfl, trivial, hcontent.2⟩, ⟨rfl, rfl, hlicense.1, trivial⟩,
      ⟨rfl, rfl, hlicense.2, trivial⟩, ⟨rfl, rfl, hlicense.1, trivial⟩, List.forall_mem_nil _⟩
  obtain ⟨hindex, hlicenses⟩ : s.index = true ∧ s.licenses = true := by decide +kernel
  have hids : s.Identified := ⟨by decide +kernel, by decide +kernel⟩
  have hlisted : answer .listContents = .ok (.items [.content c, .content d]) :=
    ok_of_toOption (by decide +kernel)
  have hlistedFor : answer (.listLicenses (.text "c") (.int 10) (.int 0)) = .ok (.items [
      .report (stored a midnight midnight),
      .report (stored b (.moment ⟨1, by decide, some .utc⟩) .null)]) :=
    ok_of_toOption (by decide +kernel)
  have hrestored := stores_restored .sqlite (w := .container false false) {} rfl hxs hids
  rw [show ((start .sqlite (.container false false)).run xs).2 = s from rfl] at hrestored
  clear_value s
  obtain ⟨cs, e, hcs, hdump, he⟩ := hrestored.1 hindex
  obtain ⟨ls, e', hls, he'⟩ := (hrestored.2 hlicenses).2.1 _ _ _ _ hlistedFor
  have hcontents : cs.map Item.content = [c, d].map Item.content :=
    Answer.items.inj (Except.ok.inj (hcs.symm.trans hlisted))
  have hreports : ls.map Item.report = [_, _].map Item.report :=
    hls.symm
  rw [List.map_injective_iff.2 (fun _ _ => Item.content.inj) hcontents] at he
  rw [List.map_injective_iff.2 (fun _ _ => Item.report.inj) hreports] at he'
  exact ⟨⟨e, hdump, he⟩, e', hlistedFor, he'⟩

end Session

end RightsStore
