import Mathlib.Data.List.Permutation
import RightsStore.Proofs.Issues
import RightsStore.Proofs.Pages
import RightsStore.Proofs.Snapshots
import RightsStore.Proofs.StoredOrder

namespace RightsStore

section Excerpts

variable {α β : Type} {size number : Int}

def excerpt (size number : Int) (as : List α) : List α :=
  let rest := as.drop (max 0 (size * number)).toNat
  if size < 0 then rest else rest.take size.toNat

def paged (size number : Int) (as : List α) : Except Failure (List α) :=
  if fitsWord size && fitsWord (size * number) then .ok (excerpt size number as)
  else .error .integerRange

theorem excerpt_sublist (size number : Int) (as : List α) : (excerpt size number as).Sublist as := by
  rw [excerpt]
  split
  · exact List.drop_sublist ..
  · exact (List.take_sublist ..).trans (List.drop_sublist ..)

theorem map_excerpt (f : α → β) (as : List α) :
    (excerpt size number as).map f = excerpt size number (as.map f) := by
  rw [excerpt, excerpt]
  split
  · rw [List.map_drop]
  · rw [List.map_take, List.map_drop]

theorem map_paged (f : α → β) (as : List α) :
    (paged size number as).map (List.map f) = paged size number (as.map f) := by
  rw [paged, paged]
  split
  · exact congrArg Except.ok (map_excerpt f as)
  · rfl

theorem Page.bind_ints (size number : Int) (k : Nat) :
    (Page.mk (.int size) (.int (number * size))).bind k =
      if fitsWord size && fitsWord (size * number) then .ok (.int size, .int (size * number))
      else .error .integerRange := by
  rw [Int.mul_comm number]
  cases hsize : fitsWord size with
  | false =>
    rw [bind, Datum.bind, hsize]
    rfl
  | true =>
    cases hoffset : fitsWord (size * number) with
    | false =>
      simp only [bind, Datum.bind, hsize, hoffset]
      rfl
    | true => exact bind_int hsize hoffset k

theorem Window.exists_excerpt (size number : Int) (as : List α) :
    ∃ w, Window.ofCells (.int size) (.int (size * number)) = .ok w ∧
      w.apply as = excerpt size number as := by
  have hmax : ∀ n : Int, (max 0 n).toNat = n.toNat := fun n => by omega
  by_cases hsize : size = 0
  · subst hsize
    exact ⟨⟨0, 0⟩, rfl, by simp [apply, excerpt]⟩
  · refine ⟨⟨size, size * number⟩, ?_, ?_⟩
    · rw [ofCells, whole_int, ok_bind, if_neg hsize, whole_int]
      rfl
    · rw [apply, excerpt, hmax]

theorem Page.window_eq (size number : Int) (k : Nat) (as : List α) :
    ((Page.mk (.int size) (.int (number * size))).bind k >>= fun q =>
      Window.ofCells q.1 q.2 >>= fun w => .ok (w.apply as)) = paged size number as := by
  rw [bind_ints, paged]
  split
  · obtain ⟨w, hw, happly⟩ := Window.exists_excerpt size number as
    rw [ok_bind, hw, ok_bind, happly]
  · rfl

end Excerpts

namespace LicenseStore

variable {db : Database} {t : LicenseTable}

theorem list_paged (ht : db.license = some t) (c : String) (size number : Int) :
    list db (.text c) (.int size) (.int number) =
      paged size number (db.licenseRows.filter (·.contentId = .text c)) := by
  rw [list_eq ht, Page.window_eq, Database.licensesOf, Database.licenseRows_eq, Rows.toList,
    List.filter_map]
  rfl

theorem listAll_paged (ht : db.license = some t) (size number : Int) :
    listAll db (.int size) (.int number) = paged size number t.byIssued := by
  rw [listAll_eq ht, Page.window_eq, db.byIssued_eq ht]

end LicenseStore

def License.issue? (g : License) : Option Int :=
  match g.issued with
  | .moment u => some u.instant
  | .datum _ => none

/-- From the latest issue to the earliest; licenses issued together keep their order. -/
structure NewestFirst (gs sorted : List License) : Prop where
  perm : sorted.Perm gs
  descending : sorted.Pairwise fun a b => ∀ i j, a.issue? = some i → b.issue? = some j → j ≤ i
  stable : ∀ i, sorted.filter (·.issue? = some i) = gs.filter (·.issue? = some i)

def License.notEarlier (a b : License) : Bool := b.issue?.getD 0 ≤ a.issue?.getD 0

theorem newestFirst_mergeSort (gs : List License) :
    NewestFirst gs (gs.mergeSort License.notEarlier) := by
  have htrans : ∀ a b c : License, a.notEarlier b = true → b.notEarlier c = true →
      a.notEarlier c = true := by
    intro a b c hab hbc
    simp only [License.notEarlier, decide_eq_true_eq] at hab hbc ⊢
    exact Int.le_trans hbc hab
  have htotal : ∀ a b : License, (a.notEarlier b || b.notEarlier a) = true := by
    intro a b
    simp only [License.notEarlier, Bool.or_eq_true, decide_eq_true_eq]
    exact Int.le_total ..
  refine ⟨List.mergeSort_perm .., ?_, ?_⟩
  · refine (List.pairwise_mergeSort htrans htotal gs).imp ?_
    intro a b hab i j hi hj
    simpa only [License.notEarlier, hi, hj, Option.getD_some, decide_eq_true_eq] using hab
  · intro i
    -- those of one instant are in order already, and so are kept as they stand
    have htogether : (gs.filter (·.issue? = some i)).Pairwise (License.notEarlier · ·) := by
      rw [List.pairwise_filter]
      refine List.pairwise_of_forall ?_
      intro a b ha hb
      rw [decide_eq_true_eq] at ha hb
      rw [License.notEarlier, ha, hb]
      exact decide_eq_true (Int.le_refl _)
    have hkept := (List.sublist_mergeSort htrans htotal htogether List.filter_sublist).filter
      (·.issue? = some i)
    rw [List.filter_filter] at hkept
    simp only [Bool.and_self] at hkept
    refine (hkept.eq_of_length ?_).symm
    exact ((List.mergeSort_perm gs License.notEarlier).filter _).length_eq.symm

theorem NewestFirst.eq_of_lt {a b : License} {sorted : List License}
    (h : NewestFirst [a, b] sorted) {i j : Int} (ha : a.issue? = some i) (hb : b.issue? = some j)
    (hij : i < j) : sorted = [b, a] := by
  rcases List.perm_pair.1 h.perm with rfl | rfl
  · have hle := (List.pairwise_pair.1 h.descending) i j ha hb
    omega
  · rfl

def LicenseRow.report (r : LicenseRow) : License := r.read.toOption.getD { id := r.id }

theorem LicenseRow.Stamped.exists_record {r : LicenseRow} (h : r.Stamped) :
    ∃ issued updated start stop, r.issued.readStamp = .ok issued ∧
      r.report = r.record issued updated start stop ∧ r.read = .ok r.report := by
  obtain ⟨issued, hissued⟩ := h.issued.readStamp
  obtain ⟨updated, hupdated⟩ := h.updated.readStamp
  obtain ⟨start, hstart⟩ := h.start.readStamp
  obtain ⟨stop, hstop⟩ := h.stop.readStamp
  have hread := LicenseRow.read_eq hissued hupdated hstart hstop
  have hreport : r.report = r.record issued updated start stop := by
    rw [report, hread]
    rfl
  exact ⟨issued, updated, start, stop, hissued, hreport, hread.trans (congrArg _ hreport.symm)⟩

theorem LicenseRow.Stamped.read_eq_report {r : LicenseRow} (h : r.Stamped) : r.read = .ok r.report := by
  obtain ⟨_, _, _, _, -, -, hread⟩ := h.exists_record
  exact hread

theorem LicenseRow.Stamped.id_report {r : LicenseRow} (h : r.Stamped) : r.report.id = .cell r.id := by
  obtain ⟨_, _, _, _, -, hreport, -⟩ := h.exists_record
  rw [hreport, record]

theorem LicenseRow.Stamped.contentId_report {r : LicenseRow} (h : r.Stamped) :
    r.report.contentId = .cell r.contentId := by
  obtain ⟨_, _, _, _, -, hreport, -⟩ := h.exists_record
  rw [hreport, record]

theorem LicenseRow.Stamped.readStamp_issued {r : LicenseRow} (h : r.Stamped) :
    r.issued.readStamp = .ok r.report.issued := by
  obtain ⟨_, _, _, _, hissued, hreport, -⟩ := h.exists_record
  rw [hissued, hreport, record]

theorem LicenseRow.Stamped.issued_lt {a b : LicenseRow} (ha : a.Stamped) (hb : b.Stamped)
    (hadated : a.issued ≠ .null) (hbdated : b.issued ≠ .null) :
    (!a.issued.lt b.issued) = a.report.notEarlier b.report := by
  obtain ⟨s, hs⟩ := ha.issued.resolve_left hadated
  obtain ⟨t, ht⟩ := hb.issued.resolve_left hbdated
  have hsread := ha.readStamp_issued
  have htread := hb.readStamp_issued
  rw [Cell.readStamp_of_isMoment hs] at hsread
  rw [Cell.readStamp_of_isMoment ht] at htread
  rw [License.notEarlier, License.issue?, License.issue?, ← Except.ok.inj hsread,
    ← Except.ok.inj htread, hs.2, ht.2, Cell.lt, Option.getD_some, Option.getD_some,
    Bool.eq_iff_iff, Bool.not_eq_true', decide_eq_false_iff_not, decide_eq_true_eq,
    Text.ofList_lt_ofList, Moment.stored_lt_stored_iff hs.1 ht.1, Int.not_lt]

structure License.ReadsAs (l g : License) : Prop where
  id : g.id = l.id
  issued : l.issued.UtcForm g.issued
  dated : g.issue?.isSome = true

theorem License.ReadsAs.issue?_eq {l g : License} {u : Moment} (h : l.ReadsAs g)
    (hl : l.issued = .moment u) : g.issue? = some u.instant := by
  have hissued := h.issued
  rw [hl] at hissued
  rw [License.issue?]
  generalize g.issued = issued at hissued ⊢
  cases hissued with
  | moment hutc hsame => exact congrArg some hsame

theorem License.Issues.readsAs {l : License} {r : LicenseRow} (h : l.Issues r) (hr : r.Stamped)
    (hdated : r.issued ≠ .null) : l.ReadsAs r.report := by
  obtain ⟨issued, hissued, hform⟩ := Stamp.readStamp_of_bind h.issued
  rw [hr.readStamp_issued] at hissued
  cases hissued
  refine ⟨hr.id_report.trans h.id.symm, hform, ?_⟩
  obtain ⟨u, hu⟩ := hr.issued.resolve_left hdated
  have hread := hr.readStamp_issued
  rw [Cell.readStamp_of_isMoment hu] at hread
  rw [License.issue?, ← Except.ok.inj hread]
  rfl

theorem UniqueIds.find?_eq {ρ : Type} {id : ρ → Cell} {rows : List ρ} {r : ρ} (h : UniqueIds id rows)
    (hr : r ∈ rows) (hid : id r ≠ .null) :
    rows.find? (fun old => (id r).matches (id old)) = some r := by
  obtain ⟨before, after, rfl⟩ := List.append_of_mem hr
  rw [List.find?_eq_some_iff_append]
  refine ⟨Cell.matches_iff.2 ⟨hid, rfl⟩, before, after, rfl, ?_⟩
  intro old hold
  rw [Bool.not_eq_true', Cell.matches_comm]
  exact (List.pairwise_append.1 h).2.2 old hold r List.mem_cons_self

namespace Session

/-- A listing that is asked for at once or opened as a stream gives these licenses, or fails. -/
structure Lists (s : Session) (x : Step) (q : Query) (gs : Except Failure (List License)) : Prop where
  answer : (s.step x).1.answer = gs.map fun gs => .items (gs.map .report)
  opened : ∀ name, (s.step (.openStream name q)).1.answer = gs.map fun _ => .done
  stream : ∀ name given, gs = .ok given → (s.step (.openStream name q)).2.cursor? name =
    some (.reading (given.map fun g => .ok (.report g)))

theorem map_licenseItem {rows : List LicenseRow} (h : ∀ r ∈ rows, r.Stamped) :
    rows.map licenseItem = (rows.map LicenseRow.report).map fun g => .ok (.report g) := by
  rw [List.map_map, List.map_inj_left]
  intro r hr
  rw [licenseItem, (h r hr).read_eq_report]
  rfl

variable {s : Session}

theorem lists_of_rows {x : Step} {q : Query} {rows : Except Failure (List LicenseRow)}
    (hx : s.step x = s.listing rows licenseItem answerItems)
    (hq : ∀ name, s.step (.openStream name q) = s.openStream name rows licenseItem)
    (hrows : ∀ given, rows = .ok given → ∀ r ∈ given, r.Stamped) :
    s.Lists x q (rows.map (List.map LicenseRow.report)) := by
  cases rows with
  | error f =>
    refine ⟨?_, fun name => ?_, nofun⟩
    · rw [hx]
      rfl
    · rw [hq, openStream_error]
      rfl
  | ok given =>
    have hitems := map_licenseItem (hrows given rfl)
    refine ⟨?_, fun name => ?_, fun name gs hgs => ?_⟩
    · have hall : given.map licenseItem =
          ((given.map LicenseRow.report).map Item.report).map .ok := by
        rw [hitems, List.map_map (f := Item.report)]
        rfl
      rw [hx, listing, Cursor.ofRows, hall, Cursor.drain, Stream.remaining_map_ok]
      rfl
    · rw [hq, openStream_ok]
      rfl
    · cases hgs
      rw [hq, ← hitems, openStream_ok, cursor?, stream?, List.lookup_cons_self]
      rfl

theorem mem_of_paged {α : Type} {size number : Int} {as given : List α}
    (h : paged size number as = .ok given) {a : α} (ha : a ∈ given) : a ∈ as := by
  rw [paged] at h
  split at h
  · cases h
    exact (excerpt_sublist size number as).subset ha
  · cases h

theorem Readable.lists_listLicenses (h : s.Readable) (c : String) (size number : Int) :
    s.Lists (.listLicenses (.text c) (.int size) (.int number))
      (.licenses (.text c) (.int size) (.int number))
      (paged size number ((s.database.licenseRows.map LicenseRow.report).filter
        (·.contentId = .text c))) := by
  obtain ⟨t, ht⟩ := Option.isSome_iff_exists.1 (h.orderly.backed.isOpen h.isOpen)
  have hstamped := h.orderly.stamped
  rw [← Database.licenseRows_eq] at hstamped
  have hfilter : (s.database.licenseRows.map LicenseRow.report).filter (·.contentId = .text c) =
      (s.database.licenseRows.filter (·.contentId = .text c)).map LicenseRow.report := by
    rw [List.filter_map]
    refine congrArg _ (List.filter_congr fun r hr => ?_)
    rw [Function.comp_apply, (hstamped r hr).contentId_report]
    simp
  have hrows := LicenseStore.list_paged ht c size number
  rw [hfilter, ← map_paged]
  refine lists_of_rows ?_ (fun name => ?_) fun given hgiven r hr => ?_
  · rw [Session.step_eq, Session.outcome, onStore, if_pos h.isOpen, hrows]
  · rw [Session.step_eq, Session.outcome, starting, onStore, if_pos h.isOpen, hrows]
  · exact hstamped r (List.mem_of_mem_filter (mem_of_paged hgiven hr))

theorem Readable.lists_listAllLicenses (h : s.Readable) (hdated : s.database.Dated)
    (size number : Int) :
    s.Lists (.listAllLicenses (.int size) (.int number)) (.allLicenses (.int size) (.int number))
      (paged size number ((s.database.licenseRows.map LicenseRow.report).mergeSort
        License.notEarlier)) := by
  obtain ⟨t, ht⟩ := Option.isSome_iff_exists.1 (h.orderly.backed.isOpen h.isOpen)
  have hstamped := h.orderly.stamped
  rw [Database.Dated] at hdated
  rw [Database.licenseEntries_eq ht] at hstamped hdated
  have hsort : (s.database.licenseRows.map LicenseRow.report).mergeSort License.notEarlier =
      t.byIssued.map LicenseRow.report := by
    rw [Database.licenseRows_eq, Database.licenseEntries_eq ht, LicenseTable.byIssued]
    refine (List.map_mergeSort fun a ha b hb => ?_).symm
    exact (hstamped a ha).issued_lt (hstamped b hb) (hdated a ha) (hdated b hb)
  have hrows := LicenseStore.listAll_paged ht size number
  rw [hsort, ← map_paged]
  refine lists_of_rows ?_ (fun name => ?_) fun given hgiven r hr => ?_
  · rw [Session.step_eq, Session.outcome, onStore, if_pos h.isOpen, hrows]
  · rw [Session.step_eq, Session.outcome, starting, onStore, if_pos h.isOpen, hrows]
  · exact hstamped r (List.mem_mergeSort.1 (mem_of_paged hgiven hr))

theorem Readable.getLicense_report (h : s.Readable)
    (hunique : UniqueIds LicenseRow.id s.database.licenseEntries.toList) {r : LicenseRow}
    (hr : r ∈ s.database.licenseEntries.toList) {i : String} (hid : r.id = .text i) :
    (s.step (.getLicense (.text i))).1.answer = .ok (.license r.report) := by
  have hfind := hunique.find?_eq hr (by rw [hid]; nofun)
  rw [hid] at hfind
  rw [answer_getLicense (ready_iff.2 h.orderly.backed) h.isOpen, Rows.lookUp, hfind]
  simp only [(h.orderly.stamped r hr).read_eq_report]
  rfl

/-- After any steps of the stores the license table holds one license for each addition that
succeeded, in the order of these, as it is read by its id. A list gives those of its content in
this order, or all from the latest issue to the earliest, whatever offsets they were added with;
and of these its excerpt, if neither end of that is out of range. -/
theorem licenses_listed (d : Dialect) {w : Wiring} (draws : Draws) (hw : w.isFresh = true)
    {xs : List Step} (hxs : ∀ x ∈ xs, x.isRaw = false ∧ x.Typed)
    (hopen : ((start d w draws).run xs).2.licenses = true) :
    let s := ((start d w draws).run xs).2
    ∃ gs sorted,
      List.Forall₂ License.ReadsAs (additions ((start d w draws).succeeded xs)) gs ∧
      List.Forall₂ (fun r g => LicenseRow.read r = .ok g) s.database.licenseRows gs ∧
      NewestFirst gs sorted ∧
      (∀ g ∈ gs, g.id ≠ .null → (s.step (.getLicense g.id)).1.answer = .ok (.license g)) ∧
      (∀ c size number, s.Lists (.listLicenses (.text c) (.int size) (.int number))
        (.licenses (.text c) (.int size) (.int number))
        (paged size number (gs.filter (·.contentId = .text c)))) ∧
      ∀ size number, s.Lists (.listAllLicenses (.int size) (.int number))
        (.allLicenses (.int size) (.int number)) (paged size number sorted) := by
  intro s
  have hreadable : s.Readable := ⟨orderly_run d draws hw fun x hx => (hxs x hx).1, hopen⟩
  have hissued := issuedBy_run d w draws hxs
  have hdated := dated_run d w draws xs
  have hrows := Database.licenseRows_eq s.database
  refine ⟨s.database.licenseRows.map LicenseRow.report, _, ?_, ?_, newestFirst_mergeSort _, ?_,
    hreadable.lists_listLicenses, hreadable.lists_listAllLicenses hdated⟩
  · have hread : ∀ r ∈ s.database.licenseEntries.toList, r.Stamped ∧ r.issued ≠ .null :=
      fun r hr => ⟨hreadable.orderly.stamped r hr, hdated r hr⟩
    have hpairs := (List.forall₂_and_left _ _).2 ⟨hread, hissued.rows.flip⟩
    rw [hrows, List.forall₂_map_right_iff]
    exact hpairs.flip.imp fun l r hr => hr.2.readsAs hr.1.1 hr.1.2
  · rw [List.forall₂_map_right_iff, List.forall₂_same, hrows]
    exact fun r hr => (hreadable.orderly.stamped r hr).read_eq_report
  · intro g hg hid
    obtain ⟨r, hr, rfl⟩ := List.mem_map.1 hg
    rw [hrows] at hr
    rw [(hreadable.orderly.stamped r hr).id_report] at hid ⊢
    rcases hissued.id_isText r hr with hnull | ⟨i, hi⟩
    · exact absurd hnull hid
    · rw [hi]
      exact hreadable.getLicense_report hissued.unique hr (Datum.cell.inj hi)

theorem licenses_listed_of_offsets :
    let license := fun (id : String) (issued : Moment) =>
      ({ id := .text id, issued := .moment issued, contentId := .text "c" } : License)
    let a := license "a" ⟨10 * Calendar.hour, by decide, Offset.ofMicros? (2 * Calendar.hour)⟩
    let b := license "b" ⟨9 * Calendar.hour, by decide, some .utc⟩
    let xs : List Step := [
      .openStore .content, .addContent { id := .text "c" }, .openStore .license, .addLicense a,
      .addLicense b]
    let s := ((start .sqlite (.separate true)).run xs).2
    ∃ ga gb, a.ReadsAs ga ∧ b.ReadsAs gb ∧ NewestFirst [ga, gb] [gb, ga] ∧
      s.Lists (.listAllLicenses (.int 1) (.int 1)) (.allLicenses (.int 1) (.int 1)) (.ok [ga]) := by
  intro license a b xs s
  have htyped : ∀ id issued, (license id issued).Typed := by
    intro id issued
    refine ⟨.inr ⟨_, rfl⟩, ?_, .inr ⟨_, rfl⟩, ⟨.inl rfl, .inl rfl⟩, .inr ⟨_, rfl⟩, .inr ⟨_, rfl⟩⟩
    rintro u ⟨⟩
    exact .inr ⟨_, rfl⟩
  have hxs : ∀ x ∈ xs, x.isRaw = false ∧ x.Typed := by
    simp only [xs, List.forall_mem_cons]
    exact ⟨⟨rfl, trivial⟩, ⟨rfl, trivial⟩, ⟨rfl, trivial⟩, ⟨rfl, htyped ..⟩, ⟨rfl, htyped ..⟩,
      List.forall_mem_nil _⟩
  have hopen : s.licenses = true := by decide +kernel
  have hall : ((start .sqlite (.separate true)).run xs).1.all Reply.succeeded = true := by
    decide +kernel
  obtain ⟨gs, sorted, hadded, -, hnewest, -, -, hlists⟩ :=
    licenses_listed .sqlite (w := .separate true) {} rfl hxs hopen
  have hboth : additions xs = [a, b] := rfl
  rw [succeeded_eq_self hall, hboth] at hadded
  cases hadded with
  | @cons _ ga _ _ ha hrest =>
    cases hrest with
    | @cons _ gb _ _ hb hnone =>
      cases hnone
      cases hnewest.eq_of_lt (ha.issue?_eq rfl) (hb.issue?_eq rfl) (by decide +kernel)
      exact ⟨ga, gb, ha, hb, hnewest, hlists 1 1⟩

end Session

end RightsStore
