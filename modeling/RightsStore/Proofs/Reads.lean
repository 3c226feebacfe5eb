import RightsStore.Proofs.Dumps
import RightsStore.Proofs.Pages

namespace RightsStore

theorem Cell.IsStamp.readStamp_inUtc {c : Cell} (h : c.IsStamp) :
    ∃ s, c.readStamp = .ok s ∧ s.InUtc := by
  rcases h with rfl | ⟨u, hu⟩
  · exact ⟨.null, rfl, .inl rfl⟩
  · exact ⟨.moment u, readStamp_of_isMoment hu, .inr ⟨u, rfl, hu.1⟩⟩

structure LicenseRow.Typed (r : LicenseRow) : Prop where
  id : (Datum.cell r.id).IsText
  user : (Datum.cell r.userId).IsText
  provider : (Datum.cell r.provider).IsText
  contentId : (Datum.cell r.contentId).IsText
  print : (Datum.cell r.print).IsInteger
  copy : (Datum.cell r.copy).IsInteger
  status : (Datum.cell r.status).IsInteger

theorem License.Owns.isText {l : License} {r : LicenseRow} (h : l.Owns r) (hl : l.Typed) :
    (Datum.cell r.userId).IsText ∧ (Datum.cell r.provider).IsText ∧
      (Datum.cell r.contentId).IsText :=
  ⟨hl.user _ h.user, h.provider ▸ hl.provider, h.contentId ▸ hl.contentId⟩

theorem Rights.Grants.isInteger {g : Rights} {r : LicenseRow} (h : g.Grants r) (hg : g.Typed) :
    (Datum.cell r.print).IsInteger ∧ (Datum.cell r.copy).IsInteger :=
  ⟨h.print ▸ hg.print, h.copy ▸ hg.copy⟩

namespace LicenseRow.Typed

variable {l : License} {r old : LicenseRow}

theorem read (h : r.Typed) (hr : r.Stamped) : ∃ l, r.read = .ok l ∧ l.Typed ∧ l.Legible := by
  obtain ⟨issued, hissued, hissuedUtc⟩ := hr.issued.readStamp_inUtc
  obtain ⟨updated, hupdated, hupdatedUtc⟩ := hr.updated.readStamp_inUtc
  obtain ⟨start, hstart, hstartUtc⟩ := hr.start.readStamp_inUtc
  obtain ⟨stop, hstop, hstopUtc⟩ := hr.stop.readStamp_inUtc
  have hstatus : ∃ n, (r.record issued updated start stop).status = .int n := by
    rw [record]
    dsimp only
    rw [Datum.orZero_of_isInteger h.status]
    rcases h.status with hnull | ⟨n, hn⟩
    · exact ⟨0, by rw [hnull]; rfl⟩
    · exact ⟨n, by rw [hn]; rfl⟩
  refine ⟨_, read_eq hissued hupdated hstart hstop, ?_, ?_⟩
  · refine ⟨h.id, ?_, h.provider, ⟨h.print, h.copy⟩, h.contentId, .inr hstatus⟩
    rintro u ⟨⟩
    exact h.user
  · exact ⟨hissuedUtc, hupdatedUtc, hstartUtc, hstopUtc, hstatus⟩

theorem added (hr : LicenseStore.Insertion l r) (hl : l.Typed) : r.convert.Typed := by
  obtain ⟨huser, hprovider, hcontent⟩ := (hr.owner.owns hl).isText hl
  obtain ⟨hprint, hcopy⟩ := (hr.rights.grants hl.rights).isInteger hl.rights
  have hstatus := License.typed_storedStatus hl
  exact {
    id := hr.id.convert_id hl.id ▸ hl.id
    user := huser
    provider := hprovider
    contentId := hcontent
    print := hprint
    copy := hcopy
    status := hr.status.convert_status hstatus ▸ hstatus }

theorem amended {clock : Moment} (h : old.Typed) (hr : LicenseStore.Amendment l clock r)
    (hl : l.Typed) : (old.amend r.convert).Typed := by
  obtain ⟨huser, hprovider, hcontent⟩ := (hr.owner.owns hl).isText hl
  obtain ⟨hprint, hcopy⟩ := (hr.rights.grants hl.rights).isInteger hl.rights
  exact {
    id := h.id
    user := huser
    provider := hprovider
    contentId := hcontent
    print := hprint
    copy := hcopy
    status := h.status }

theorem regranted {clock : Moment} (h : old.Typed) (hr : LicenseStore.Regrant l clock r)
    (hl : l.Typed) : (old.regrant r.convert).Typed := by
  obtain ⟨hprint, hcopy⟩ := (hr.rights.grants hl.rights).isInteger hl.rights
  exact { h with print := hprint, copy := hcopy }

theorem restated {id status : Datum} (h : old.Typed) (hr : LicenseStore.Restatement id status r)
    (hstatus : status.IsInteger) : (old.restate r.convert).Typed :=
  { h with status := hr.status.convert_status hstatus ▸ hstatus }

end LicenseRow.Typed

def Rows.Typed (t : Rows LicenseRow) : Prop := ∀ r ∈ t.toList, r.Typed

theorem Rows.Typed.merged {t : Rows LicenseRow} (h : t.Typed) {new : LicenseRow}
    {merge : (old new : LicenseRow) → LicenseRow}
    (hmerge : ∀ old : LicenseRow, old.Typed → (merge old new).Typed) :
    (t.map (LicenseTable.merged new merge)).Typed := by
  rw [Typed, toList_map, List.forall_mem_map]
  intro old hold
  rw [LicenseTable.merged]
  split
  · exact hmerge old (h old hold)
  · exact h old hold

theorem Step.Effect.typed {d : Dialect} {enforce ok : Bool} {x : Step} {db db' : Database}
    (he : x.Effect d enforce ok db db') (hx : x.Typed) (ho : db.licenseEntries.Consecutive)
    (h : db.licenseEntries.Typed) : db'.licenseEntries.Typed := by
  cases he with
  | failed => exact h
  | read => exact h
  | prepared hlicense =>
    rw [hlicense]
    exact h
  | opened =>
    rw [(db.openAll_grows d _).license]
    exact h
  | contentAdded hadd =>
    obtain ⟨_, _, _, -, -, -, rfl⟩ := ContentIndex.add_eq_ok hadd
    exact h
  | contentUpdated hupdate =>
    obtain ⟨_, _, _, -, -, -, rfl⟩ := ContentIndex.update_eq_ok hupdate
    exact h
  | licenseAdded hadd =>
    obtain ⟨t, t', r, ht, hr, hinsert, rfl⟩ := LicenseStore.add_eq_ok hadd
    obtain ⟨-, -, -, rfl⟩ := LicenseTable.enter_eq_ok hinsert
    rw [Database.licenseEntries_eq ht] at h ho
    have hrows : (t.entries.add r.convert).Typed := by
      rw [Rows.Typed, ho.toList_add, List.forall_mem_append, List.forall_mem_singleton]
      exact ⟨h, .added hr hx⟩
    exact hrows
  | licenseUpdated hupdate =>
    obtain ⟨t, t', n, r, ht, hr, hmodify, rfl⟩ := LicenseStore.update_eq_ok hupdate
    obtain ⟨rfl, -⟩ := LicenseTable.modify_eq_ok hmodify
    rw [Database.licenseEntries_eq ht] at h
    exact h.merged fun old hold => hold.amended hr hx
  | rightsUpdated hupdate =>
    obtain ⟨t, t', r, ht, hr, hmodify, rfl⟩ := LicenseStore.updateRights_eq_ok hupdate
    obtain ⟨rfl, -⟩ := LicenseTable.modify_eq_ok hmodify
    rw [Database.licenseEntries_eq ht] at h
    exact h.merged fun old hold => hold.regranted hr hx
  | statusSet hset =>
    obtain ⟨t, t', n, r, ht, hr, hmodify, rfl⟩ := LicenseStore.setStatus_eq_ok hset
    obtain ⟨rfl, -⟩ := LicenseTable.modify_eq_ok hmodify
    rw [Database.licenseEntries_eq ht] at h
    exact h.merged fun old hold => hold.restated hr hx.2

theorem Content.Typed.stored {c : Content} (h : c.Typed) : c.stored.Typed := by
  rw [c.stored_eq]
  exact { h with mediaType := c.isText_stored h.mediaType }

theorem typed_current {history : List Step} (h : ∀ x ∈ history, x.ContentTyped) {c : Content}
    (hc : c ∈ added history) : (current history c).Typed := by
  have hadded : c.Typed := h _ (mem_added.1 hc)
  rw [current]
  refine Content.Typed.stored ?_
  cases hlast : lastContent c.id history with
  | none => exact hadded
  | some c' =>
    obtain ⟨x, hx, hunder⟩ := List.mem_filterMap.1 (List.mem_of_getLast? hlast)
    have htyped := h x hx
    have hcontent := (contentUnder?_eq_some.1 hunder).1
    cases x with
    | addContent c'' =>
      cases hcontent
      exact htyped
    | updateContent c'' =>
      cases hcontent
      exact htyped
    | _ => cases hcontent

theorem Window.exists_ofCells (limit offset : Int) :
    ∃ w, ofCells (.int limit) (.int offset) = .ok w := by
  by_cases hlimit : limit = 0
  · subst hlimit
    exact ⟨⟨0, 0⟩, rfl⟩
  · refine ⟨⟨limit, offset⟩, ?_⟩
    simp only [ofCells, whole_int]
    change (if limit = 0 then _ else _) = _
    rw [if_neg hlimit]
    rfl

theorem Datum.IsText.exists_bind {d : Datum} (h : d.IsText) (k : Nat) : ∃ c, d.bind k = .ok c := by
  rcases h with rfl | ⟨s, rfl⟩ <;> exact ⟨_, rfl⟩

namespace LicenseStore

variable {db : Database} {t : LicenseTable} {size number : Int}

theorem list_succeeds (ht : db.license = some t) (hsize : fitsWord size = true)
    (hoffset : fitsWord (number * size) = true) {contentId : Datum} (hid : contentId.IsText) :
    ∃ rows, list db contentId (.int size) (.int number) = .ok rows ∧ rows ⊆ t.rows := by
  obtain ⟨c, hc⟩ := hid.exists_bind 1
  obtain ⟨w, hw⟩ := Window.exists_ofCells size (number * size)
  refine ⟨w.apply (t.ofContent c), ?_, ?_⟩
  · rw [list, Page.of_int, ok_bind, LicenseStore.listPage, table_eq_ok.2 ht, ok_bind, hc, ok_bind,
      Page.bind_int hsize hoffset, ok_bind]
    dsimp only
    rw [hw]
    rfl
  · exact fun r hr => (List.mem_filter.1 ((w.apply_sublist _).subset hr)).1

theorem listAll_succeeds (ht : db.license = some t) (hsize : fitsWord size = true)
    (hoffset : fitsWord (number * size) = true) :
    ∃ rows, listAll db (.int size) (.int number) = .ok rows ∧ rows ⊆ t.rows := by
  obtain ⟨w, hw⟩ := Window.exists_ofCells size (number * size)
  refine ⟨w.apply t.byIssued, ?_, ?_⟩
  · rw [listAll, Page.of_int, ok_bind, listAllPage, table_eq_ok.2 ht, ok_bind,
      Page.bind_int hsize hoffset, ok_bind]
    dsimp only
    rw [hw]
    rfl
  · exact fun r hr => List.mem_mergeSort.1 ((w.apply_sublist _).subset hr)

end LicenseStore

namespace Session

def Holds (s : Session) (l : License) : Prop :=
  ∃ r ∈ s.database.licenseEntries.toList, r.read = .ok l

structure Legible (history : List Step) (s : Session) : Prop where
  indexes : Indexes history s
  contents : ∀ x ∈ history, x.ContentTyped
  orderly : s.Orderly
  licenses : s.database.licenseEntries.Typed

theorem legible_run (d : Dialect) {w : Wiring} (draws : Draws) (hw : w.isFresh = true)
    {xs : List Step}
    (hxs : ∀ x ∈ xs, x.isRaw = false ∧ x.isFixture = false ∧ x.Typed ∧ x.ContentTyped) :
    Legible ((start d w draws).succeeded xs) ((start d w draws).run xs).2 := by
  have hindexes := indexes_run d draws hw
    fun x hx => ⟨(hxs x hx).1, (hxs x hx).2.1, (hxs x hx).2.2.2⟩
  have hstart : (start d w draws).Orderly := orderly_run d draws hw (List.forall_mem_nil _)
  have hrun : (∀ x ∈ (start d w draws).succeeded xs, x.ContentTyped) ∧
      ((start d w draws).run xs).2.Orderly ∧
      ((start d w draws).run xs).2.database.licenseEntries.Typed := by
    apply history_induction (P := fun history s => (∀ x ∈ history, x.ContentTyped) ∧ s.Orderly ∧
      s.database.licenseEntries.Typed)
      ⟨List.forall_mem_nil _, hstart, List.forall_mem_nil _⟩ ?_ hxs
    rintro history s x ⟨hcontents, horderly, hlicenses⟩ ⟨hraw, -, htyped, hcontent⟩
    refine ⟨?_, horderly.step hraw, (s.step_effect hraw).typed htyped horderly.ordered hlicenses⟩
    rw [List.forall_mem_append, done]
    refine ⟨hcontents, ?_⟩
    split
    · exact List.forall_mem_singleton.2 hcontent
    · exact List.forall_mem_nil _
  exact ⟨hindexes, hrun.1, hrun.2.1, hrun.2.2⟩

namespace Legible

variable {history : List Step} {s : Session} {size number : Int}

theorem getContent (h : Legible history s) (hopen : s.index = true) (i : String) :
    let answer := (s.step (.getContent (.text i))).1.answer
    answer = .error (.notFound .content) ∨ ∃ c, answer = .ok (.item (.content c)) := by
  intro answer
  have hanswer : answer = _ := h.indexes.answer_getContent hopen i
  cases hfind : (added history).find? (·.id = .text i) with
  | none =>
    rw [hfind] at hanswer
    exact .inl hanswer
  | some c =>
    rw [hfind] at hanswer
    exact .inr ⟨_, hanswer⟩

theorem listContents (h : Legible history s) (hopen : s.index = true) :
    ∃ cs : List Content, (s.step .listContents).1.answer = .ok (.items (cs.map .content)) := by
  refine ⟨(added history).map (current history), ?_⟩
  rw [List.map_map]
  exact h.indexes.answer_listContents hopen

theorem dumpContents (h : Legible history s) (hopen : s.index = true) :
    ∃ d, (s.step .dumpContents).1.answer = .ok (.document d) := by
  obtain ⟨d, hd⟩ : ∃ d, Schema.content.dumpMany
      (((added history).map (.content ∘ current history)).map Item.document) = .ok d := by
    apply Schema.dumpMany_succeeds
    rw [List.map_map, List.forall_mem_map]
    exact fun c hc => Schema.dump_content (typed_current h.contents hc)
  refine ⟨d, ?_⟩
  rw [step_eq, outcome, h.indexes.answer_listing hopen, answerDump, hd]

theorem getLicense (h : Legible history s) (hopen : s.licenses = true) (i : String) :
    let answer := (s.step (.getLicense (.text i))).1.answer
    answer = .error (.notFound .license) ∨ ∃ l, answer = .ok (.license l) ∧ l.Legible := by
  intro answer
  have hanswer : answer = _ := answer_getLicense (ready_iff.2 h.orderly.backed) hopen i
  cases hfind : s.database.licenseEntries.lookUp i with
  | none =>
    rw [hfind] at hanswer
    exact .inl hanswer
  | some r =>
    have hr := List.mem_of_find?_eq_some hfind
    obtain ⟨l, hl, -, hlegible⟩ := (h.licenses r hr).read (h.orderly.stamped r hr)
    rw [hfind] at hanswer
    refine .inr ⟨l, hanswer.trans ?_, hlegible⟩
    simp only [hl]
    rfl

theorem exists_licenses (h : Legible history s) {rows : List LicenseRow}
    (hrows : rows ⊆ s.database.licenseEntries.toList) :
    ∃ ls : List License, (∀ l ∈ ls, s.Holds l ∧ l.Typed ∧ l.Legible) ∧
      rows.map licenseItem = (ls.map Item.report).map .ok := by
  induction rows with
  | nil => exact ⟨[], List.forall_mem_nil _, rfl⟩
  | cons r rows ih =>
    rw [List.cons_subset] at hrows
    obtain ⟨l, hl, hgood⟩ := (h.licenses r hrows.1).read (h.orderly.stamped r hrows.1)
    obtain ⟨ls, hls, hmap⟩ := ih hrows.2
    refine ⟨l :: ls, List.forall_mem_cons.2 ⟨⟨⟨r, hrows.1, hl⟩, hgood⟩, hls⟩, ?_⟩
    rw [List.map_cons, hmap, licenseItem, hl]
    rfl

theorem answer_listing (h : Legible history s) (hopen : s.licenses = true)
    {listed : Except Failure (List LicenseRow)}
    (hlisted : ∀ t, s.database.license = some t → ∃ rows, listed = .ok rows ∧ rows ⊆ t.rows) :
    ∃ ls : List License, (∀ l ∈ ls, s.Holds l ∧ l.Typed ∧ l.Legible) ∧ ∀ answer,
      (s.onStore .license (s.listing listed licenseItem answer)).1.answer =
        answer (ls.map .report) := by
  obtain ⟨t, ht⟩ := Option.isSome_iff_exists.1 (h.orderly.backed.isOpen hopen)
  obtain ⟨rows, rfl, hrows⟩ := hlisted t ht
  have htable : t.rows = s.database.licenseEntries.toList := by
    rw [Database.licenseEntries_eq ht]
    rfl
  rw [htable] at hrows
  obtain ⟨ls, hls, hmap⟩ := h.exists_licenses hrows
  refine ⟨ls, hls, ?_⟩
  intro answer
  rw [onStore, isOpen, if_pos hopen]
  simp only [listing, Cursor.ofRows, Cursor.drain, hmap, Stream.remaining_map_ok]
  rfl

theorem listLicenses (h : Legible history s) (hopen : s.licenses = true)
    (hsize : fitsWord size = true) (hoffset : fitsWord (number * size) = true) {contentId : Datum}
    (hid : contentId.IsText) :
    ∃ ls : List License, (∀ l ∈ ls, l.Legible) ∧
      (s.step (.listLicenses contentId (.int size) (.int number))).1.answer =
        .ok (.items (ls.map .report)) := by
  obtain ⟨ls, hls, hanswer⟩ := h.answer_listing hopen
    (fun t ht => LicenseStore.list_succeeds ht hsize hoffset hid)
  refine ⟨ls, fun l hl => (hls l hl).2.2, ?_⟩
  rw [step_eq]
  exact hanswer answerItems

theorem listAllLicenses (h : Legible history s) (hopen : s.licenses = true)
    (hsize : fitsWord size = true) (hoffset : fitsWord (number * size) = true) :
    ∃ ls : List License, (∀ l ∈ ls, l.Legible) ∧
      (s.step (.listAllLicenses (.int size) (.int number))).1.answer =
        .ok (.items (ls.map .report)) := by
  obtain ⟨ls, hls, hanswer⟩ := h.answer_listing hopen
    (fun t ht => LicenseStore.listAll_succeeds ht hsize hoffset)
  refine ⟨ls, fun l hl => (hls l hl).2.2, ?_⟩
  rw [step_eq]
  exact hanswer answerItems

theorem dumpLicenses (h : Legible history s) (hopen : s.licenses = true)
    (hsize : fitsWord size = true) (hoffset : fitsWord (number * size) = true) :
    ∃ d, (s.step (.dumpLicenses (.int size) (.int number))).1.answer = .ok (.document d) := by
  obtain ⟨ls, hls, hanswer⟩ := h.answer_listing hopen
    (fun t ht => LicenseStore.listAll_succeeds ht hsize hoffset)
  obtain ⟨d, hd⟩ : ∃ d, Schema.licenseReport.dumpMany ((ls.map .report).map Item.document) =
      .ok d := by
    apply Schema.dumpMany_succeeds
    rw [List.map_map, List.forall_mem_map]
    exact fun l hl => Schema.dump_licenseReport (hls l hl).2.1 (hls l hl).2.2
  refine ⟨d, ?_⟩
  rw [step_eq, outcome, hanswer, answerDump, hd]

end Legible

/-- Whatever records of the declared types have been given, and however they were refused, both
stores can read what they hold: an id has a record or none, and lists and dumps come to their ends.
-/
theorem reads_succeed (d : Dialect) {w : Wiring} (draws : Draws) (hw : w.isFresh = true)
    {xs : List Step}
    (hxs : ∀ x ∈ xs, x.isRaw = false ∧ x.isFixture = false ∧ x.Typed ∧ x.ContentTyped)
    (hindex : ((start d w draws).run xs).2.index = true)
    (hlicenses : ((start d w draws).run xs).2.licenses = true) :
    let answer := fun x : Step => (((start d w draws).run xs).2.step x).1.answer
    (∀ i : String, answer (.getContent (.text i)) = .error (.notFound .content) ∨
        ∃ c, answer (.getContent (.text i)) = .ok (.item (.content c))) ∧
      (∀ i : String, answer (.getLicense (.text i)) = .error (.notFound .license) ∨
        ∃ l, answer (.getLicense (.text i)) = .ok (.license l) ∧ l.Legible) ∧
      (∃ cs : List Content, answer .listContents = .ok (.items (cs.map .content))) ∧
      (∃ e, answer .dumpContents = .ok (.document e)) ∧
      ∀ size number : Int, fitsWord size = true → fitsWord (number * size) = true →
        (∀ contentId : Datum, contentId.IsText → ∃ ls : List License, (∀ l ∈ ls, l.Legible) ∧
            answer (.listLicenses contentId (.int size) (.int number)) =
              .ok (.items (ls.map .report))) ∧
          (∃ ls : List License, (∀ l ∈ ls, l.Legible) ∧
            answer (.listAllLicenses (.int size) (.int number)) =
              .ok (.items (ls.map .report))) ∧
          ∃ e, answer (.dumpLicenses (.int size) (.int number)) = .ok (.document e) := by
  intro answer
  have h := legible_run d draws hw hxs
  refine ⟨h.getContent hindex, h.getLicense hlicenses, h.listContents hindex,
    h.dumpContents hindex, ?_⟩
  intro size number hsize hoffset
  exact ⟨fun contentId hid => h.listLicenses hlicenses hsize hoffset hid,
    h.listAllLicenses hlicenses hsize hoffset, h.dumpLicenses hlicenses hsize hoffset⟩

theorem reads_succeed_of_first_hour :
    let added : License := {
      id := .null, issued := .moment ⟨0, by decide, some .utc⟩, contentId := .text "c"
      status := .null }
    let xs : List Step := [
      .openStore .content, .addContent { id := .text "c" }, .openStore .license,
      .addLicense added]
    let s := ((start .sqlite (.separate true)).run xs).2
    s.database.licenseRows.length = 1 ∧
      (∃ ls : List License, (∀ l ∈ ls, l.Legible) ∧
        (s.step (.listLicenses (.text "c") (.int (-1)) (.int 0))).1.answer =
          .ok (.items (ls.map .report))) ∧
      ∃ e, (s.step (.dumpLicenses (.int 10) (.int 0))).1.answer = .ok (.document e) := by
  intro added xs s
  have hadded : added.Typed := by
    refine ⟨.inl rfl, ?_, .inr ⟨_, rfl⟩, ⟨.inl rfl, .inl rfl⟩, .inr ⟨_, rfl⟩, .inl rfl⟩
    rintro u ⟨⟩
    exact .inr ⟨_, rfl⟩
  have hcontent : ({ id := .text "c" } : Content).Typed :=
    ⟨.inr ⟨_, rfl⟩, .inr ⟨_, rfl⟩, .inl rfl, .inl rfl, .inr ⟨_, rfl⟩⟩
  have hxs : ∀ x ∈ xs, x.isRaw = false ∧ x.isFixture = false ∧ x.Typed ∧ x.ContentTyped := by
    simp only [xs, List.forall_mem_cons]
    exact ⟨⟨rfl, rfl, trivial, trivial⟩, ⟨rfl, rfl, trivial, hcontent⟩,
      ⟨rfl, rfl, trivial, trivial⟩, ⟨rfl, rfl, hadded, trivial⟩, List.forall_mem_nil _⟩
  obtain ⟨hindex, hlicenses, hlength⟩ : s.index = true ∧ s.licenses = true ∧
      s.database.licenseRows.length = 1 := by decide +kernel
  obtain ⟨-, -, -, -, hpages⟩ :=
    reads_succeed .sqlite (w := .separate true) {} rfl hxs hindex hlicenses
  refine ⟨hlength, (hpages (-1) 0 rfl rfl).1 _ (.inr ⟨_, rfl⟩), ?_⟩
  exact (hpages 10 0 rfl rfl).2.2

end Session

end RightsStore
