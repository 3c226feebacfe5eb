import RightsStore.Proofs.Integrity
import RightsStore.Proofs.Lockstep

namespace RightsStore

namespace Rows

variable {ρ : Type} {t : Rows ρ} {n : Nat}

/-- So many rows more come after all others: these rows were added one after the other, or there are
numbers enough above theirs. -/
def HasRoom (n : Nat) (t : Rows ρ) : Prop :=
  t.Consecutive ∨ t.numbers.Pairwise (· < ·) ∧ ∀ m ∈ t.numbers, m + n ≤ greatest

theorem HasRoom.less (h : t.HasRoom (n + 1)) : t.HasRoom n := by
  rcases h with hordered | ⟨hascending, hroom⟩
  · exact .inl hordered
  · refine .inr ⟨hascending, fun m hm => ?_⟩
    have := hroom m hm
    omega

theorem HasRoom.map (h : t.HasRoom n) (f : ρ → ρ) : (t.map f).HasRoom n := by
  rcases h with hordered | hroom
  · exact .inl (hordered.map f)
  · refine .inr ?_
    rw [numbers_map]
    exact hroom

theorem Consecutive.of_empty (h : t.entries = []) : t.Consecutive := by
  rw [Consecutive, numbers, h]
  rfl

theorem le_of_ascending {last m : Int} (h : t.numbers.Pairwise (· < ·))
    (hlast : t.numbers.getLast? = some last) (hm : m ∈ t.numbers) : m ≤ last := by
  obtain ⟨front, hfront⟩ := List.getLast?_eq_some_iff.1 hlast
  rw [hfront] at h hm
  rcases List.mem_append.1 hm with hbefore | hself
  · have := (List.pairwise_append.1 h).2.2 m hbefore last List.mem_cons_self
    omega
  · exact Int.le_of_eq (List.mem_singleton.1 hself)

theorem entries_add_of_ascending {last : Int} (h : t.numbers.Pairwise (· < ·))
    (hlast : t.numbers.getLast? = some last) (hroom : last < greatest) (r : ρ) :
    (t.add r).entries = t.entries ++ [(last + 1, r)] := by
  have hnext : t.nextNumber = last + 1 := by
    rw [nextNumber, hlast]
    exact if_neg (Int.ne_of_lt hroom)
  have hle : ∀ e ∈ t.entries, e.1 ≤ last + 1 := by
    intro e he
    have := le_of_ascending h hlast (List.mem_map_of_mem he)
    omega
  rw [add, hnext, insertAt, insertEntry_of_forall_le hle]

theorem HasRoom.add (h : t.HasRoom (n + 1)) (r : ρ) :
    (t.add r).toList = t.toList ++ [r] ∧ (t.add r).HasRoom n := by
  rcases h with hordered | ⟨hascending, hroom⟩
  · exact ⟨hordered.toList_add r, .inl (hordered.add r)⟩
  · cases hlast : t.numbers.getLast? with
    | none =>
      have hempty := Consecutive.of_empty (List.map_eq_nil_iff.1 (List.getLast?_eq_none_iff.1 hlast))
      exact ⟨hempty.toList_add r, .inl (hempty.add r)⟩
    | some last =>
      have hbound := hroom last (List.mem_of_getLast? hlast)
      have hadd := entries_add_of_ascending hascending hlast (by omega) r
      have hnumbers : (t.add r).numbers = t.numbers ++ [last + 1] := by
        rw [numbers, hadd, List.map_append]
        rfl
      refine ⟨?_, .inr ⟨?_, ?_⟩⟩
      · rw [toList, hadd, List.map_append]
        rfl
      · rw [hnumbers, List.pairwise_append]
        refine ⟨hascending, List.pairwise_singleton .., ?_⟩
        intro a ha b hb
        cases List.mem_singleton.1 hb
        exact Int.lt_add_one_of_le (le_of_ascending hascending hlast ha)
      · rw [hnumbers]
        intro m hm
        rcases List.mem_append.1 hm with hold | hnew
        · have := hroom m hold
          omega
        · rw [List.mem_singleton] at hnew
          omega

end Rows

structure ContentRow.Legacy (r : ContentRow) : Prop where
  id : r.id = .null ∨ ∃ s, r.id = .text s
  key : ∃ b, r.key = .blob b
  location : ∃ s, r.location = .text s
  length : r.length = .null ∨ ∃ n, r.length = .int n ∧ fitsWord n = true
  sha256 : r.sha256 = .null ∨ ∃ s, r.sha256 = .text s

structure ContentRow.Migrated (r : ContentRow) : Prop extends r.Legacy where
  mediaType : r.mediaType = .text defaultMediaType

def ContentRow.migrated (r : ContentRow) : ContentRow :=
  { r with mediaType := .text defaultMediaType }

theorem ContentRow.Legacy.migrated {r : ContentRow} (h : r.Legacy) : r.migrated.Migrated :=
  { h with mediaType := rfl }

def ContentRow.untyped (r : ContentRow) : Content where
  id := r.id
  key := r.key
  location := r.location
  length := r.length
  sha256 := r.sha256

namespace ContentRow.Migrated

variable {r : ContentRow}

theorem record (h : r.Migrated) : r.record = r.untyped := by
  rw [ContentRow.record, h.mediaType]
  rfl

theorem convert (h : r.Migrated) (layout : ContentLayout) : r.convert layout = r := by
  have htext {c : Cell} (hc : c = .null ∨ ∃ s, c = .text s) : Affinity.text.convert c = c := by
    rcases hc with rfl | ⟨s, rfl⟩ <;> rfl
  have hinteger : Affinity.numeric.convert r.length = r.length := by
    rcases h.length with hl | ⟨n, hl, -⟩ <;> rw [hl] <;> rfl
  rw [ContentRow.convert, htext h.id, Affinity.convert_of_isKey (.inr h.key), htext (.inr h.location),
    hinteger, htext h.sha256, htext (.inr ⟨_, h.mediaType⟩)]

theorem checkNulls (h : r.Migrated) : r.checkNulls = .ok () := by
  obtain ⟨b, hkey⟩ := h.key
  obtain ⟨l, hlocation⟩ := h.location
  rw [checkNulls_eq_ok, hkey, hlocation, h.mediaType]
  exact ⟨nofun, nofun, nofun⟩

theorem bindInsertion (h : r.Migrated) : ContentIndex.bindInsertion r.untyped r.key = .ok r := by
  have htext {c : Cell} (hc : c = .null ∨ ∃ s, c = .text s) (k : Nat) :
      (Datum.cell c).bind k = .ok c := by
    rcases hc with rfl | ⟨s, rfl⟩ <;> rfl
  have hlength (k : Nat) : (Datum.cell r.length).bind k = .ok r.length := by
    rcases h.length with hl | ⟨n, hl, hfits⟩
    · rw [hl]
      rfl
    · rw [hl, Datum.bind, if_pos hfits]
  have htype (k : Nat) : r.untyped.storedType.bind k = .ok r.mediaType := by
    rw [h.mediaType]
    rfl
  simp only [ContentIndex.bindInsertion, ContentIndex.bindRest, htype]
  simp only [untyped, htext h.id, htext (.inr h.location), hlength, htext h.sha256, ok_bind]
  rfl

theorem add (h : r.Migrated) {db : Database} {t : ContentTable} (ht : db.content = some t)
    (htype : t.layout.hasType = true) (hfresh : ∀ old ∈ t.rows, r.id.matches old.id = false) :
    ContentIndex.add db r.untyped =
      .ok { db with content := some { t with entries := t.entries.add r } } := by
  have hkey : r.untyped.key.bindKey = .ok r.key := by
    obtain ⟨b, hb⟩ := h.key
    rw [untyped, hb]
    rfl
  have hinsert : t.insert r = .ok { t with entries := t.entries.add r } := by
    have hnone : t.rows.any (r.id.matches ·.id) = false := by
      rw [List.any_eq_false]
      intro old hold
      rw [hfresh old hold]
      exact Bool.false_ne_true
    simp only [ContentTable.insert, ContentTable.insertNumbered, askedNumber_null, ok_bind,
      h.convert, h.checkNulls, Rows.checkNumber_none, hnone]
    rfl
  rw [ContentIndex.add_eq]
  simp only [hkey, ok_bind, ContentIndex.table_eq_ok.2 ⟨ht, htype⟩, h.bindInsertion, hinsert]
  rfl

end ContentRow.Migrated

/-- The rows of the one table stand in the other too, where they were added one after the other. -/
structure ContentTable.Migrated (n : Nat) (t t' : ContentTable) : Prop where
  rows : t'.rows = t.rows
  hasType : t.layout.hasType = true
  hasType' : t'.layout.hasType = true
  room : t.entries.HasRoom n
  ordered : t'.entries.Consecutive

def Comparison.migrated : Comparison where
  keys := .shown
  left := .sqlite
  right := .sqlite
  Declared := Eq
  declared := rfl
  Tables := ContentTable.Migrated
  hasType h := h.hasType'.trans h.hasType.symm
  rows h := by rw [h.rows]
  less h := { h with room := h.room.less }
  add {n t t' r r'} h hr := by
    rw [ContentRow.seen_shown, ContentRow.seen_shown] at hr
    obtain ⟨hnew, hroom⟩ := h.room.add r
    refine ⟨?_, h.hasType, h.hasType', hroom, h.ordered.add r'⟩
    rw [ContentTable.rows, ContentTable.rows, hnew, h.ordered.toList_add, hr]
    exact congrArg (· ++ [r]) h.rows
  replace {n t t' r r'} h hr := by
    rw [ContentRow.seen_shown, ContentRow.seen_shown] at hr
    refine ⟨?_, h.hasType, h.hasType', h.room.map _, h.ordered.map _⟩
    rw [ContentTable.rows, ContentTable.rows, Rows.toList_map, Rows.toList_map, hr]
    exact congrArg (List.map _) h.rows
  created _ draws := ⟨rfl, rfl, rfl, .inl (.empty draws), .empty draws⟩
  extended h hlegacy := absurd h.hasType (Bool.eq_false_iff.1 hlegacy)

namespace Database

variable {db : Database}

theorem open_of_legacy {t : ContentTable} (ht : db.content = some t)
    (hlegacy : t.layout = .legacy) :
    (db.open .sqlite .content).refusal = none ∧ (db.open .sqlite .content).database =
      { db with content := some { layout := .extended, entries := t.entries.map .migrated } } := by
  have hcreate : db.create .sqlite .content = .ok db := by
    rw [create, has, ht]
    rfl
  have hcolumn : db.addColumn Dialect.typeMigration.column = .ok { db with
      content := some { layout := .extended, entries := t.entries.map .migrated } } := by
    rw [addColumn, ht]
    simp only [hlegacy]
    rfl
  simp only [Database.open, hcreate, Opening.migrations, Dialect.contentMigrations,
    Opening.migrateAll, Opening.migrate, hcolumn, and_self]

theorem open_of_missing (ht : db.content = none) (hindex : db.hasIndex .content = false) :
    (db.open .sqlite .content).refusal = none ∧ (db.open .sqlite .content).database =
      { db with content := some {
        layout := .created .sqlite, entries := { draws := db.draws.content } } } := by
  have hcreate : db.create .sqlite .content = .ok { db with content := some {
      layout := .created .sqlite, entries := { draws := db.draws.content } } } := by
    rw [create, has, ht, hindex]
    rfl
  have htype : HasType { db with content := some {
      layout := .created .sqlite, entries := { draws := db.draws.content } } } := by
    rintro _ ⟨⟩
    rfl
  simp only [Database.open, hcreate, migrateAll_of_refused (addColumn_of_hasType htype), and_self]

end Database

def Wiring.withIndex : Wiring → Wiring
  | .separate enforce => .separate enforce
  | .container _ licenses => .container true licenses

def Wiring.countIndex (counts : StoreCount) : Wiring → StoreCount
  | .separate _ => counts
  | .container .. => counts.add .content

namespace Session

variable {s : Session} {r : ContentRow} {rows : List ContentRow} {xs : List Step}

theorem openStore_content (hw : s.wiring.isFresh = true) {db : Database}
    (h : (s.database.open s.dialect .content).refusal = none ∧
      (s.database.open s.dialect .content).database = db) :
    (s.step (.openStore .content)).1.succeeded = true ∧
      (s.step (.openStore .content)).2 = { s with
        wiring := s.wiring.withIndex, counts := s.wiring.countIndex s.counts, database := db
        index := true } := by
  have hopened : s.openTable .content =
      (⟨.ok .done, (s.database.open s.dialect .content).log⟩, s.withDatabase db) := by
    rw [openTable_eq, opening, h.1, h.2]
  have hfresh : s.wiring = .separate s.enforce ∨ s.wiring = .container false false := by
    rw [enforce]
    cases hwiring : s.wiring with
    | separate enforce => exact .inl rfl
    | container index licenses =>
      rw [hwiring, Wiring.isFresh, Bool.and_eq_true, Bool.not_eq_true', Bool.not_eq_true'] at hw
      rw [hw.1, hw.2]
      exact .inr rfl
  rw [step_eq, outcome]
  unfold openStore
  rcases hfresh with hwiring | hwiring
  · rw [hwiring]
    dsimp only
    rw [hopened]
    refine ⟨rfl, ?_⟩
    rw [Wiring.withIndex, Wiring.countIndex, ← hwiring]
    rfl
  · rw [hwiring]
    unfold containerIndex
    rw [hopened]
    exact ⟨rfl, rfl⟩

def additions (rows : List ContentRow) : List Step := rows.map fun r => .addContent r.untyped

theorem run_additions {t : ContentTable} (hs : s.index = true) (ht : s.database.content = some t)
    (htype : t.layout.hasType = true) (hordered : t.entries.Consecutive)
    (hrows : ∀ r ∈ rows, r.Migrated) (hids : UniqueIds ContentRow.id (t.rows ++ rows)) :
    (∀ reply ∈ (s.run (additions rows)).1, reply.succeeded = true) ∧
      ∃ entries : Rows ContentRow, entries.Consecutive ∧ entries.toList = t.rows ++ rows ∧
        (s.run (additions rows)).2 =
          s.withDatabase { s.database with content := some { t with entries } } := by
  induction rows generalizing s t with
  | nil =>
    refine ⟨List.forall_mem_nil _, t.entries, hordered, (List.append_nil _).symm, ?_⟩
    obtain ⟨dialect, wiring, counts, ⟨content, license, other, draws⟩, rest⟩ := s
    cases ht
    rfl
  | cons r rows ih =>
    rw [List.forall_mem_cons] at hrows
    obtain ⟨hr, hrows⟩ := hrows
    have hfresh : ∀ old ∈ t.rows, r.id.matches old.id = false := by
      intro old hold
      rw [Cell.matches_comm]
      exact (List.pairwise_append.1 hids).2.2 old hold r List.mem_cons_self
    have hstep : s.step (.addContent r.untyped) = (⟨.ok .done, [.contentAdded r.untyped.id]⟩,
        s.withDatabase
          { s.database with content := some { t with entries := t.entries.add r } }) := by
      have hopen : s.isOpen .content = true := hs
      rw [step_eq, outcome, onStore, hopen, if_pos rfl, hr.add ht htype hfresh]
      rfl
    have hnew : ContentTable.rows { t with entries := t.entries.add r } = t.rows ++ [r] :=
      hordered.toList_add r
    rw [List.append_cons, ← hnew] at hids
    rw [additions, List.map_cons, run_cons, hstep, ← additions]
    generalize hs' : s.withDatabase _ = s'
    have hindex : s'.index = true := hs' ▸ hs
    have hcontent : s'.database.content = some { t with entries := t.entries.add r } := hs' ▸ rfl
    obtain ⟨hreplies, entries, hentries, hlist, hlast⟩ :=
      ih hindex hcontent htype (hordered.add r) hrows hids
    rw [hnew, ← List.append_cons] at hlist
    subst hs'
    exact ⟨List.forall_mem_cons.2 ⟨rfl, hreplies⟩, entries, hentries, hlist, hlast⟩

theorem listContents_of_migrated {t : ContentTable} (hs : s.index = true)
    (ht : s.database.content = some t) (htype : t.layout.hasType = true)
    (hrows : ∀ r ∈ t.rows, r.Migrated) :
    (s.step .listContents).1.answer = .ok (.items (t.rows.map fun r => .content r.untyped)) := by
  have hopen : s.isOpen .content = true := hs
  have hlist : ContentIndex.list s.database = .ok t.rows := by
    rw [ContentIndex.list, ContentIndex.table_eq_ok.2 ⟨ht, htype⟩]
    rfl
  have hread : t.rows.map contentItem = (t.rows.map fun r => Item.content r.untyped).map .ok := by
    rw [List.map_map]
    refine List.map_congr_left fun r hr => ?_
    obtain ⟨b, hb⟩ := (hrows r hr).key
    rw [contentItem, ContentRow.read_eq hb, (hrows r hr).record]
    rfl
  rw [step_eq, outcome, onStore, hopen, if_pos rfl, hlist, listing, Cursor.ofRows, hread, Cursor.drain,
    Stream.remaining_map_ok]
  rfl

/-- An old content table keeps its rows when the index is opened, and every row gets the default
media type. From then on, all is answered as by a new table to which the same contents were added
in order, as long as there is room for new rows behind the old ones. -/
theorem legacy_contents_migrated {w : Wiring} (hw : w.isFresh = true) {db : Database}
    {t : ContentTable} (ht : db.content = some t) (hlegacy : t.layout = .legacy)
    (hrows : ∀ r ∈ t.rows, r.Legacy) (hids : UniqueIds ContentRow.id t.rows)
    (hindex : db.hasIndex .content = false) {xs : List Step}
    (hxs : ∀ x ∈ xs, x.isStoreStep = true) (hroom : t.entries.HasRoom (added xs).length) :
    let old := { start .sqlite w with database := db }
    let new := { start .sqlite w with database := { db with content := none } }
    let opened := old.step (.openStore .content)
    let filled := new.run (.openStore .content :: additions t.rows)
    opened.1.succeeded = true ∧
      opened.2.database = { db with content := some {
        layout := .extended, entries := t.entries.map .migrated } } ∧
      (opened.2.step .listContents).1.answer =
        .ok (.items (t.rows.map fun r => .content r.untyped)) ∧
      (∀ reply ∈ filled.1, reply.succeeded = true) ∧
      (opened.2.run xs).1.map Reply.answer = (filled.2.run xs).1.map Reply.answer := by
  intro old new opened filled
  have hmigrated : ∀ r ∈ t.rows.map ContentRow.migrated, r.Migrated := by
    rw [List.forall_mem_map]
    exact fun r hr => (hrows r hr).migrated
  have hnewIds : UniqueIds ContentRow.id (t.rows.map ContentRow.migrated) := List.pairwise_map.2 hids
  have hnewRows : (t.entries.map ContentRow.migrated).toList = t.rows.map ContentRow.migrated :=
    Rows.toList_map ..
  obtain ⟨hok, hopened⟩ := openStore_content (s := old) hw (Database.open_of_legacy ht hlegacy)
  have hmissing := Database.open_of_missing (rfl : new.database.content = none) hindex
  obtain ⟨hok', hstarted⟩ := openStore_content (s := new) hw hmissing
  obtain ⟨hadded, entries, hordered, hlist, hfilled⟩ :=
    run_additions (s := (new.step (.openStore .content)).2)
      (t := { layout := .created .sqlite, entries := { draws := db.draws.content } })
      (by rw [hstarted]) (by rw [hstarted]) rfl (.empty _) hmigrated hnewIds
  have hsame : additions (t.rows.map ContentRow.migrated) = additions t.rows := List.map_map ..
  rw [hsame] at hadded hfilled
  have hopened : opened.2 = _ := hopened
  have hfilled : filled.2 = _ := hfilled
  have hlicense : Option.Rel Comparison.migrated.Licenses db.license db.license := by
    cases db.license with
    | none => exact .none
    | some t => exact .some ⟨rfl, rfl⟩
  have hsessions : Comparison.migrated.Sessions (0 + (added xs).length) opened.2 filled.2 := by
    rw [hopened, hfilled, hstarted, Nat.zero_add]
    exact
      { dialect := rfl
        dialect' := rfl
        wiring := rfl
        counts := rfl
        database :=
          { content := .some ⟨hlist.trans hnewRows.symm, rfl, rfl, hroom.map _, hordered⟩
            license := hlicense
            other := rfl
            draws := rfl }
        pool := rfl
        index := rfl
        licenses := rfl
        streams := rfl }
  obtain ⟨hreplies, -⟩ := Comparison.run (fun x => x.isStoreStep = true)
    (fun _ _ _ _ _ hx hs hseen => Comparison.Results.step hs hx hseen) hxs rfl hsessions
  refine ⟨hok, ?_, ?_, List.forall_mem_cons.2 ⟨hok', hadded⟩,
    (Comparison.map_answer_of_replies rfl hreplies).symm⟩
  · rw [hopened]
  · rw [← hnewRows] at hmigrated
    have hlisted := listContents_of_migrated (s := opened.2)
      (t := ⟨.extended, t.entries.map .migrated⟩) (by rw [hopened]) (by rw [hopened]) rfl hmigrated
    rw [hlisted, ContentTable.rows, hnewRows, List.map_map]
    rfl

def legacyRow : ContentRow where
  id := .text "legacy"
  key := .blob [0, 255]
  location := .text "/books/legacy.epub"
  length := .int 10
  sha256 := .text "abc"
  mediaType := .null

theorem legacy_legacyRow : legacyRow.Legacy :=
  ⟨.inr ⟨_, rfl⟩, ⟨_, rfl⟩, ⟨_, rfl⟩, .inr ⟨_, rfl, rfl⟩, .inr ⟨_, rfl⟩⟩

theorem legacy_contents_migrated_of_one :
    let rows := Rows.ofList [legacyRow] []
    let c : Content := { id := .text "b" }
    let xs : List Step := [.addContent c, .listContents]
    let old := { start .sqlite (.separate true) with
      database := { content := some { layout := .legacy, entries := rows } } }
    let new := start .sqlite (.separate true)
    let opened := old.step (.openStore .content)
    let filled := new.run (.openStore .content :: additions [legacyRow])
    (opened.2.run xs).1.map Reply.answer = (filled.2.run xs).1.map Reply.answer ∧
      (opened.2.run xs).1.map Reply.answer =
        [.ok .done, .ok (.items [.content legacyRow.untyped, .content c])] := by
  intro rows c xs old new opened filled
  have hrows : ∀ r ∈ [legacyRow], r.Legacy := by
    rw [List.forall_mem_singleton]
    exact legacy_legacyRow
  have hxs : ∀ x ∈ xs, x.isStoreStep = true := by
    simp only [xs, List.forall_mem_cons]
    exact ⟨rfl, rfl, List.forall_mem_nil _⟩
  have hanswers : (opened.2.run xs).1.map Reply.answer =
      [.ok .done, .ok (.items [.content legacyRow.untyped, .content c])] := by
    decide +kernel
  have hcontent : old.database.content = some { layout := .legacy, entries := rows } := rfl
  have hids : UniqueIds ContentRow.id [legacyRow] := List.pairwise_singleton ..
  have hmigrated := legacy_contents_migrated (w := .separate true) rfl hcontent rfl hrows hids rfl
    hxs (.inl rfl)
  exact ⟨hmigrated.2.2.2.2, hanswers⟩

/-- A row that has the greatest number stays the last one, so a content that is added comes before
it. -/
theorem legacy_contents_of_greatest_number :
    let rows : Rows ContentRow := ⟨[(Rows.greatest, legacyRow)], []⟩
    let c : Content := { id := .text "b" }
    let xs : List Step := [.addContent c, .listContents]
    let old := { start .sqlite (.separate true) with
      database := { content := some { layout := .legacy, entries := rows } } }
    let new := start .sqlite (.separate true)
    let opened := old.step (.openStore .content)
    let filled := new.run (.openStore .content :: additions rows.toList)
    (opened.2.run xs).1.map Reply.answer =
        [.ok .done, .ok (.items [.content c, .content legacyRow.untyped])] ∧
      (filled.2.run xs).1.map Reply.answer =
        [.ok .done, .ok (.items [.content legacyRow.untyped, .content c])] ∧
      (opened.2.run xs).1.map Reply.answer ≠ (filled.2.run xs).1.map Reply.answer := by
  decide +kernel

end Session

end RightsStore
