import RightsStore.Proofs.History

namespace RightsStore

structure Content.Typed (c : Content) : Prop where
  id : c.id.IsText
  location : c.location.IsText
  length : c.length.IsInteger
  sha256 : c.sha256.IsText
  mediaType : c.mediaType.IsText

def Content.stored (c : Content) : Content :=
  if c.mediaType = .null ∨ c.mediaType = .text "" then
    { c with mediaType := .text defaultMediaType }
  else c

theorem Content.storedType_eq {c : Content} (h : c.mediaType.IsText) :
    c.storedType = c.stored.mediaType := by
  rw [storedType, stored]
  rcases h with hnull | ⟨s, hs⟩
  · simp [hnull, Datum.isEmpty, Datum.document, Document.isEmpty, Leaf.isEmpty]
  · by_cases hempty : s = "" <;>
      simp [hs, hempty, Datum.isEmpty, Datum.document, Document.isEmpty, Leaf.isEmpty]

theorem Content.stored_eq (c : Content) : c.stored = { c with mediaType := c.stored.mediaType } := by
  rw [stored]
  split <;> rfl

theorem Content.isText_stored {c : Content} (h : c.mediaType.IsText) :
    c.stored.mediaType.IsText := by
  rw [stored]
  split
  · exact .inr ⟨_, rfl⟩
  · exact h

namespace Step

def content? : Step → Option Content
  | .addContent c => some c
  | .updateContent c => some c
  | _ => none

def added? : Step → Option Content
  | .addContent c => some c
  | _ => none

def ContentTyped : Step → Prop
  | .addContent c => c.Typed
  | .updateContent c => c.Typed
  | _ => True

theorem content?_of_not_writes {x : Step} (h : x.writes = false) : x.content? = none := by
  cases x with
  | addContent c => cases h
  | updateContent c => cases h
  | _ => rfl

theorem added?_of_content?_eq_none {x : Step} (h : x.content? = none) : x.added? = none := by
  cases x with
  | addContent c => cases h
  | _ => rfl

end Step

def added (history : List Step) : List Content := history.filterMap Step.added?

/-- The content that a step writes under this id. Under null, nothing is found again. -/
def Step.contentUnder? (id : Datum) (x : Step) : Option Content :=
  x.content?.filter fun c => c.id ≠ .null && c.id = id

def lastContent (id : Datum) (history : List Step) : Option Content :=
  (history.filterMap (Step.contentUnder? id)).getLast?

/-- What has become of a content since it was added. -/
def current (history : List Step) (c : Content) : Content :=
  ((lastContent c.id history).getD c).stored

section History

variable {history : List Step} {x : Step} {c : Content} {id : Datum}

theorem added_concat (history : List Step) (x : Step) :
    added (history ++ [x]) = added history ++ x.added?.toList := by
  rw [added, List.filterMap_append]
  cases h : x.added? <;> simp [h, added]

theorem contentUnder?_eq_some : x.contentUnder? id = some c ↔
    x.content? = some c ∧ c.id ≠ .null ∧ c.id = id := by
  simp [Step.contentUnder?, Option.filter_eq_some_iff]

theorem lastContent_concat (id : Datum) (history : List Step) (x : Step) :
    lastContent id (history ++ [x]) = (x.contentUnder? id).or (lastContent id history) := by
  rw [lastContent, List.filterMap_append, List.getLast?_append]
  cases h : x.contentUnder? id <;> simp [h, lastContent]

theorem id_of_lastContent (h : lastContent id history = some c) : c.id = id := by
  obtain ⟨x, -, hx⟩ := List.mem_filterMap.1 (List.mem_of_getLast? h)
  exact (contentUnder?_eq_some.1 hx).2.2

theorem lastContent_ne_none (h : c ∈ added history) (hid : c.id ≠ .null) :
    lastContent c.id history ≠ none := by
  obtain ⟨x, hx, hadded⟩ := List.mem_filterMap.1 h
  have hcontent : x.content? = some c := by
    cases x with
    | addContent c' => exact hadded
    | _ => cases hadded
  rw [lastContent, Ne, List.getLast?_eq_none_iff]
  have hunder := contentUnder?_eq_some.2 ⟨hcontent, hid, rfl⟩
  exact List.ne_nil_of_mem (List.mem_filterMap.2 ⟨x, hx, hunder⟩)

theorem Content.id_stored (c : Content) : c.stored.id = c.id := by
  rw [stored]
  split <;> rfl

theorem id_current (history : List Step) (c : Content) : (current history c).id = c.id := by
  rw [current, Content.id_stored]
  cases h : lastContent c.id history with
  | none => rfl
  | some c' => exact id_of_lastContent h

def Content.overwritten (c old : Content) : Content :=
  if c.id ≠ .null ∧ c.id = old.id then c.stored else old

theorem current_concat (hx : x.content? = some c) (history : List Step) (c' : Content) :
    current (history ++ [x]) c' = c.overwritten (current history c') := by
  rw [current, lastContent_concat, Content.overwritten, id_current]
  split
  · rename_i hid
    rw [contentUnder?_eq_some.2 ⟨hx, hid⟩]
    rfl
  · rename_i hid
    have hnone : x.contentUnder? c'.id = none := by
      rw [Option.eq_none_iff_forall_ne_some]
      intro a ha
      obtain ⟨hcontent, hid'⟩ := contentUnder?_eq_some.1 ha
      rw [hx] at hcontent
      cases hcontent
      exact hid hid'
    rw [hnone]
    rfl

theorem current_of_null (hc : c.id = .null) (history : List Step) :
    current history c = c.stored := by
  have hnone : lastContent c.id history = none := by
    rw [Option.eq_none_iff_forall_ne_some]
    intro c' hc'
    obtain ⟨x, -, hx⟩ := List.mem_filterMap.1 (List.mem_of_getLast? hc')
    obtain ⟨-, hnull, hid⟩ := contentUnder?_eq_some.1 hx
    exact hnull (hid.trans hc)
  rw [current, hnone]
  rfl

theorem current_concat_self (hx : x.content? = some c) (history : List Step) :
    current (history ++ [x]) c = c.stored := by
  by_cases hc : c.id = .null
  · exact current_of_null hc _
  · rw [current_concat hx, Content.overwritten, id_current, if_pos ⟨hc, rfl⟩]

theorem current_concat_of_none (hx : x.content? = none) (history : List Step) :
    current (history ++ [x]) = current history := by
  funext c
  rw [current, lastContent_concat, Step.contentUnder?, hx]
  rfl

end History

namespace ContentRow

def record (r : ContentRow) : Content where
  id := r.id
  key := r.key
  location := r.location
  length := r.length
  sha256 := r.sha256
  mediaType := r.mediaType

theorem read_eq {r : ContentRow} {b : Text.Bytes} (h : r.key = .blob b) : r.read = .ok r.record := by
  rw [read, record, h]
  rfl

end ContentRow

theorem Affinity.convert_of_isKey {c : Cell} (h : c = .null ∨ ∃ b, c = .blob b) (a : Affinity) :
    a.convert c = c := by
  rcases h with rfl | ⟨b, rfl⟩ <;> cases a <;> rfl

namespace ContentIndex

theorem Binds.record {c : Content} {r : ContentRow} (h : Binds c r) (hc : c.Typed)
    (layout : ContentLayout) : (r.convert layout).record = c.stored := by
  obtain ⟨hid, hidCell⟩ := h.id.of_isText hc.id
  obtain ⟨hkey, hkeyCell⟩ := Datum.bindKey_eq_ok h.key
  obtain ⟨hlocation, hlocationCell⟩ := h.location.of_isText hc.location
  obtain ⟨hlength, hlengthCell⟩ := h.length.of_isInteger hc.length
  obtain ⟨hsha, hshaCell⟩ := h.sha256.of_isText hc.sha256
  have hbound := h.mediaType
  rw [Content.storedType_eq hc.mediaType] at hbound
  obtain ⟨htype, htypeCell⟩ := hbound.of_isText (Content.isText_stored hc.mediaType)
  rw [c.stored_eq, ContentRow.record, ContentRow.convert, hidCell,
    Affinity.convert_of_isKey hkeyCell, hlocationCell,
    hlengthCell, hshaCell, htypeCell, ← hid, ← hkey, ← hlocation, ← hlength, ← hsha, ← htype]

theorem Binds.isBlob {c : Content} {r : ContentRow} {layout : ContentLayout} (h : Binds c r)
    (hnulls : (r.convert layout).checkNulls = .ok ()) : ∃ b, (r.convert layout).key = .blob b := by
  obtain ⟨-, hkey⟩ := Datum.bindKey_eq_ok h.key
  have hconvert : (r.convert layout).key = r.key := Affinity.convert_of_isKey hkey _
  obtain ⟨hnull, -⟩ := ContentRow.checkNulls_eq_ok.1 hnulls
  rw [hconvert] at hnull ⊢
  exact hkey.resolve_left hnull

end ContentIndex

/-- The rows after steps that have succeeded. -/
structure Listed (history : List Step) (t : Rows ContentRow) : Prop where
  ordered : t.Consecutive
  keys : ∀ r ∈ t.toList, ∃ b, r.key = .blob b
  records : t.toList.map ContentRow.record = (added history).map (current history)

namespace Listed

variable {history : List Step} {t t' : Rows ContentRow} {c : Content} {r : ContentRow}

theorem empty (draws : List Int) : Listed [] { draws } := by
  refine ⟨.empty draws, ?_, rfl⟩
  intro r hr
  cases hr

theorem quiet (h : Listed history t) {x : Step} (hx : x.content? = none) (ok : Bool)
    (ht : t' = t) : Listed (history ++ if ok then [x] else []) t' := by
  rw [ht]
  cases ok with
  | true =>
    refine ⟨h.ordered, h.keys, ?_⟩
    rw [if_pos rfl, h.records, added_concat, Step.added?_of_content?_eq_none hx,
      current_concat_of_none hx, Option.toList_none, List.append_nil]
  | false =>
    rw [if_neg Bool.false_ne_true, List.append_nil]
    exact h

theorem exists_row (h : Listed history t) (hc : c ∈ added history) :
    ∃ r ∈ t.toList, c.id = .cell r.id := by
  have hmem : current history c ∈ t.toList.map ContentRow.record := by
    rw [h.records]
    exact List.mem_map_of_mem hc
  obtain ⟨r, hr, hrecord⟩ := List.mem_map.1 hmem
  refine ⟨r, hr, ?_⟩
  rw [← id_current history c, ← hrecord]
  rfl

theorem add (h : Listed history t) (hrecord : r.record = c.stored) (hkey : ∃ b, r.key = .blob b)
    (hfresh : ∀ old ∈ t.toList, r.id.matches old.id = false) :
    Listed (history ++ [.addContent c]) (t.add r) := by
  have hnew := h.ordered.toList_add r
  have hid : c.id = .cell r.id := by
    rw [← c.id_stored, ← hrecord]
    rfl
  -- nothing was there under the id, so what was there stays as it is
  have hold : ∀ c' ∈ added history,
      current (history ++ [.addContent c]) c' = current history c' := by
    intro c' hc'
    rw [current_concat rfl, Content.overwritten, id_current, if_neg]
    rintro ⟨hnull, hsame⟩
    obtain ⟨old, hold, hid'⟩ := h.exists_row hc'
    have hmatches : r.id.matches old.id = true := by
      rw [Cell.matches_iff]
      simp_all
    rw [hfresh old hold] at hmatches
    cases hmatches
  refine ⟨h.ordered.add r, ?_, ?_⟩
  · intro r' hr'
    rw [hnew, List.mem_append, List.mem_singleton] at hr'
    cases hr' with
    | inl hold => exact h.keys r' hold
    | inr hadded =>
      rw [hadded]
      exact hkey
  · have hself : current (history ++ [.addContent c]) c = c.stored := current_concat_self rfl _
    rw [hnew, List.map_append, h.records, added_concat, List.map_append,
      List.map_congr_left hold, List.map_singleton, hrecord, ← hself]
    rfl

theorem record_replaced (hrecord : r.record = c.stored) (old : ContentRow) :
    (ContentTable.replaced r old).record = c.overwritten old.record := by
  have hid : c.id = .cell r.id := by
    rw [← c.id_stored, ← hrecord]
    rfl
  rw [ContentTable.replaced, Content.overwritten, hid]
  by_cases hmatches : r.id.matches old.id = true
  · rw [if_pos hmatches, if_pos, hrecord]
    simpa [Cell.matches_iff, ContentRow.record] using hmatches
  · rw [if_neg hmatches, if_neg]
    simpa [Cell.matches_iff, ContentRow.record] using hmatches

theorem replace (h : Listed history t) (hrecord : r.record = c.stored)
    (hkey : (∃ old ∈ t.toList, r.id.matches old.id = true) → ∃ b, r.key = .blob b) :
    Listed (history ++ [.updateContent c]) (t.map (ContentTable.replaced r)) := by
  refine ⟨h.ordered.map _, ?_, ?_⟩
  · intro r' hr'
    rw [Rows.toList_map, List.mem_map] at hr'
    obtain ⟨old, hold, rfl⟩ := hr'
    rw [ContentTable.replaced]
    split
    · rename_i hmatches
      exact hkey ⟨old, hold, hmatches⟩
    · exact h.keys old hold
  · calc (t.map (ContentTable.replaced r)).toList.map ContentRow.record
        = (t.toList.map ContentRow.record).map c.overwritten := by
          rw [Rows.toList_map, List.map_map, List.map_map]
          exact List.map_congr_left fun old _ => record_replaced hrecord old
      _ = (added history).map (current (history ++ [.updateContent c])) := by
          rw [h.records, List.map_map]
          exact List.map_congr_left fun c' _ => (current_concat rfl history c').symm
      _ = (added (history ++ [.updateContent c])).map (current (history ++ [.updateContent c])) := by
          rw [added_concat]
          simp only [Step.added?, Option.toList_none, List.append_nil]

theorem find? (h : Listed history t) (i : String) :
    (t.toList.find? ((Cell.text i).matches ·.id)).map ContentRow.record =
      ((added history).find? (·.id = .text i)).map (current history) := by
  have hrow : (fun r : ContentRow => (Cell.text i).matches r.id) =
      (fun c : Content => decide (c.id = .text i)) ∘ ContentRow.record := by
    funext r
    rw [Bool.eq_iff_iff, Cell.matches_iff]
    simp [ContentRow.record, eq_comm]
  have hcurrent : (fun c : Content => decide (c.id = .text i)) =
      (fun c : Content => decide (c.id = .text i)) ∘ current history := by
    funext c
    simp [id_current]
  rw [hrow, ← List.find?_map, h.records, List.find?_map, ← hcurrent]

end Listed

structure Database.Lists (history : List Step) (db : Database) : Prop where
  hasType : db.HasType
  listed : Listed history db.contentEntries

namespace Database.Lists

variable {history : List Step} {db db' : Database} {c : Content}

theorem other (h : db.Lists history) {x : Step} (hx : x.content? = none) (ok : Bool)
    (hcontent : db'.content = db.content) (hdraws : db'.draws = db.draws) :
    db'.Lists (history ++ if ok then [x] else []) := by
  refine ⟨?_, h.listed.quiet hx ok ?_⟩
  · intro t ht
    exact h.hasType t (hcontent.symm.trans ht)
  · rw [contentEntries, hcontent, hdraws]
    rfl

theorem contentAdded (h : db.Lists history) (hc : c.Typed)
    (hadd : ContentIndex.add db c = .ok db') : db'.Lists (history ++ [.addContent c]) := by
  obtain ⟨t, t', r, ht, hr, hinsert, rfl⟩ := ContentIndex.add_eq_ok hadd
  obtain ⟨hnulls, hfresh, rfl⟩ := ContentTable.insert_eq_ok hinsert
  have hlisted := h.listed
  rw [contentEntries_eq ht] at hlisted
  exact ⟨h.hasType.put ht rfl, hlisted.add (hr.record hc t.layout) (hr.isBlob hnulls) hfresh⟩

theorem contentUpdated (h : db.Lists history) (hc : c.Typed)
    (hupdate : ContentIndex.update db c = .ok db') :
    db'.Lists (history ++ [.updateContent c]) := by
  obtain ⟨t, t', r, ht, hr, hchange, rfl⟩ := ContentIndex.update_eq_ok hupdate
  obtain ⟨hnulls, rfl⟩ := ContentTable.update_eq_ok hchange
  have hlisted := h.listed
  rw [contentEntries_eq ht] at hlisted
  exact ⟨h.hasType.put ht rfl,
    hlisted.replace (hr.record hc t.layout) fun hsome => hr.isBlob (hnulls hsome)⟩

theorem effect {d : Dialect} {enforce ok : Bool} {x : Step} (h : db.Lists history)
    (htyped : x.ContentTyped) (hfixture : x.isFixture = false) (he : x.Effect d enforce ok db db') :
    db'.Lists (history ++ if ok then [x] else []) := by
  cases he with
  | failed =>
    rw [if_neg Bool.false_ne_true, List.append_nil]
    exact h
  | read hread => exact h.other (Step.content?_of_not_writes hread) true rfl rfl
  | prepared => cases hfixture
  | opened =>
    rename_i t ts
    have hgrows := db.openAll_grows d ts
    exact ⟨hgrows.hasType h.hasType, h.listed.quiet rfl ok (hgrows.content h.hasType)⟩
  | contentAdded hadd => exact h.contentAdded htyped hadd
  | contentUpdated hupdate => exact h.contentUpdated htyped hupdate
  | licenseAdded hadd =>
    obtain ⟨_, _, _, -, -, -, rfl⟩ := LicenseStore.add_eq_ok hadd
    exact h.other rfl true rfl rfl
  | licenseUpdated hupdate =>
    obtain ⟨_, _, _, _, -, -, -, rfl⟩ := LicenseStore.update_eq_ok hupdate
    exact h.other rfl true rfl rfl
  | rightsUpdated hupdate =>
    obtain ⟨_, _, _, -, -, -, rfl⟩ := LicenseStore.updateRights_eq_ok hupdate
    exact h.other rfl true rfl rfl
  | statusSet hset =>
    obtain ⟨_, _, _, _, -, -, -, rfl⟩ := LicenseStore.setStatus_eq_ok hset
    exact h.other rfl true rfl rfl

end Database.Lists

theorem mem_added {history : List Step} {c : Content} :
    c ∈ added history ↔ .addContent c ∈ history := by
  rw [added, List.mem_filterMap]
  constructor
  · rintro ⟨x, hx, hadded⟩
    cases x with
    | addContent c' =>
      cases hadded
      exact hx
    | _ => cases hadded
  · intro hc
    exact ⟨_, hc, rfl⟩

theorem current_eq_last {history : List Step} {c : Content} {i : String} (hc : c ∈ added history)
    (hid : c.id = .text i) : ∃ last, lastContent (.text i) history = some last ∧
      current history c = last.stored := by
  have hne := lastContent_ne_none hc (by rw [hid]; exact nofun)
  rw [hid] at hne
  obtain ⟨last, hlast⟩ := Option.ne_none_iff_exists'.1 hne
  refine ⟨last, hlast, ?_⟩
  rw [current, hid, hlast]
  rfl

namespace Session

structure Indexes (history : List Step) (s : Session) : Prop where
  backed : s.Backed .content
  lists : s.database.Lists history

theorem indexes_run (d : Dialect) {w : Wiring} (draws : Draws) (hw : w.isFresh = true)
    {xs : List Step} (hxs : ∀ x ∈ xs, x.isRaw = false ∧ x.isFixture = false ∧ x.ContentTyped) :
    Indexes ((start d w draws).succeeded xs) ((start d w draws).run xs).2 := by
  apply history_induction ⟨backed_start d draws hw .content, nofun, .empty _⟩ ?_ hxs
  rintro history s x h ⟨hraw, hfixture, htyped⟩
  exact ⟨(backed_step h.backed x).1, h.lists.effect htyped hfixture (s.step_effect hraw)⟩

namespace Indexes

variable {history : List Step} {s : Session}

theorem table (h : Indexes history s) (hopen : s.index = true) :
    ∃ t, ContentIndex.table s.database ContentIndex.noType = .ok t ∧ Listed history t.entries := by
  obtain ⟨t, ht⟩ := Option.isSome_iff_exists.1 (h.backed.isOpen hopen)
  have hlisted := h.lists.listed
  rw [Database.contentEntries_eq ht] at hlisted
  exact ⟨t, ContentIndex.table_eq_ok.2 ⟨ht, h.lists.hasType t ht⟩, hlisted⟩

theorem answer_getContent (h : Indexes history s) (hopen : s.index = true) (i : String) :
    (s.step (.getContent (.text i))).1.answer =
      match (added history).find? (·.id = .text i) with
      | none => .error (.notFound .content)
      | some c => .ok (.item (.content (current history c))) := by
  obtain ⟨t, ht, hlisted⟩ := h.table hopen
  have hbind : (Datum.text i).bind 1 = .ok (.text i) := rfl
  have hrows : t.find? (.text i) = t.rows.find? ((Cell.text i).matches ·.id) := rfl
  have hget : ContentIndex.get s.database (.text i) =
      (t.rows.find? ((Cell.text i).matches ·.id)).elim (.error (.notFound .content))
        ContentRow.read := by
    rw [ContentIndex.get, ContentIndex.find, ht, ok_bind, hbind, ok_bind, hrows]
    cases t.rows.find? ((Cell.text i).matches ·.id) <;> rfl
  have hfind : (t.rows.find? ((Cell.text i).matches ·.id)).map ContentRow.record =
      ((added history).find? (·.id = .text i)).map (current history) := hlisted.find? i
  rw [step_eq, outcome, onStore, isOpen, if_pos hopen, reading, hget]
  cases hrow : t.rows.find? ((Cell.text i).matches ·.id) with
  | none =>
    rw [hrow, Option.map_none, eq_comm, Option.map_eq_none_iff] at hfind
    rw [hfind]
    rfl
  | some r =>
    rw [hrow, Option.map_some, eq_comm, Option.map_eq_some_iff] at hfind
    obtain ⟨c, hc, hrecord⟩ := hfind
    obtain ⟨b, hb⟩ := hlisted.keys r (List.mem_of_find?_eq_some hrow)
    simp only [hc, hrecord, Option.elim_some, ContentRow.read_eq hb]
    rfl

theorem answer_of_added (h : Indexes history s) (hopen : s.index = true) {i : String} {c : Content}
    (hc : c ∈ added history) (hid : c.id = .text i) :
    ∃ last, lastContent (.text i) history = some last ∧ current history c = last.stored ∧
      (s.step (.getContent (.text i))).1.answer = .ok (.item (.content last.stored)) := by
  obtain ⟨last, hlast, hcurrent⟩ := current_eq_last hc hid
  refine ⟨last, hlast, hcurrent, ?_⟩
  rw [h.answer_getContent hopen]
  cases hfind : (added history).find? (·.id = .text i) with
  | none =>
    rw [List.find?_eq_none] at hfind
    exact absurd (decide_eq_true hid) (hfind c hc)
  | some c' =>
    -- the first one of the id is found, which is now as the last one
    have hid' : c'.id = .text i := by simpa using List.find?_some hfind
    obtain ⟨last', hlast', hcurrent'⟩ := current_eq_last (List.mem_of_find?_eq_some hfind) hid'
    rw [hlast] at hlast'
    cases hlast'
    simp only [hcurrent']

theorem answer_of_not_added (h : Indexes history s) (hopen : s.index = true) {i : String}
    (hnone : ∀ c ∈ added history, c.id ≠ .text i) :
    (s.step (.getContent (.text i))).1.answer = .error (.notFound .content) := by
  have hfind : (added history).find? (·.id = .text i) = none := by
    rw [List.find?_eq_none]
    intro c hc
    simpa using hnone c hc
  rw [h.answer_getContent hopen, hfind]

theorem answer_listing (h : Indexes history s) (hopen : s.index = true)
    (answer : List Item → Except Failure Answer) :
    (s.onStore .content
      (s.listing (ContentIndex.list s.database) contentItem answer)).1.answer =
        answer ((added history).map (.content ∘ current history)) := by
  obtain ⟨t, ht, hlisted⟩ := h.table hopen
  have hlist : ContentIndex.list s.database = .ok t.rows := by
    rw [ContentIndex.list, ht]
    rfl
  have hread : t.rows.map contentItem =
      ((added history).map (.content ∘ current history)).map .ok := by
    rw [← List.map_map, ← hlisted.records, List.map_map, List.map_map]
    refine List.map_congr_left fun r hr => ?_
    obtain ⟨b, hb⟩ := hlisted.keys r hr
    rw [contentItem, ContentRow.read_eq hb]
    rfl
  rw [onStore, isOpen, if_pos hopen, hlist]
  simp only [listing, Cursor.ofRows, Cursor.drain, hread, Stream.remaining_map_ok]
  rfl

theorem answer_listContents (h : Indexes history s) (hopen : s.index = true) :
    (s.step .listContents).1.answer =
      .ok (.items ((added history).map (.content ∘ current history))) := by
  rw [step_eq]
  exact h.answer_listing hopen answerItems

end Indexes

/-- Whatever has been done in between, an id reads as a content exactly if one was added under it,
and then as the last successful addition or update under it has given it. The list has one record
for each addition, in their order: no update moves one, and an update of what is not there adds
none. -/
theorem contents_lastWritten (d : Dialect) {w : Wiring} (draws : Draws) (hw : w.isFresh = true)
    {xs : List Step} (hxs : ∀ x ∈ xs, x.isRaw = false ∧ x.isFixture = false ∧ x.ContentTyped)
    (hopen : ((start d w draws).run xs).2.index = true) :
    let s := ((start d w draws).run xs).2
    let history := (start d w draws).succeeded xs
    let get := fun i : String => (s.step (.getContent (.text i))).1.answer
    (∀ i, (get i = .error (.notFound .content) ↔
          ∀ c, .addContent c ∈ history → c.id ≠ .text i) ∧
        ∀ c, .addContent c ∈ history → c.id = .text i →
          ∃ last, lastContent (.text i) history = some last ∧
            get i = .ok (.item (.content last.stored))) ∧
      ∃ items, (s.step .listContents).1.answer = .ok (.items items) ∧
        List.Forall₂ (fun c item => (c.id = .null → item = .content c.stored) ∧
          ∀ i, c.id = .text i → get i = .ok (.item item)) (added history) items := by
  intro s history get
  have h : Indexes history s := indexes_run d draws hw hxs
  refine ⟨?_, _, h.answer_listContents hopen, ?_⟩
  · intro i
    refine ⟨⟨?_, ?_⟩, ?_⟩
    · intro hmissing c hc hid
      obtain ⟨last, -, -, hanswer⟩ := h.answer_of_added hopen (mem_added.2 hc) hid
      have hfound : get i = .ok (.item (.content last.stored)) := hanswer
      rw [hmissing] at hfound
      cases hfound
    · intro hnone
      refine h.answer_of_not_added hopen ?_
      intro c hc
      exact hnone c (mem_added.1 hc)
    · intro c hc hid
      obtain ⟨last, hlast, -, hanswer⟩ := h.answer_of_added hopen (mem_added.2 hc) hid
      exact ⟨last, hlast, hanswer⟩
  · rw [List.forall₂_map_right_iff, List.forall₂_same]
    intro c hc
    refine ⟨?_, ?_⟩
    · intro hnull
      rw [Function.comp_apply, current_of_null hnull]
    · intro i hid
      obtain ⟨last, -, hcurrent, hanswer⟩ := h.answer_of_added hopen hc hid
      rw [Function.comp_apply, hcurrent]
      exact hanswer

theorem contents_of_early_update :
    let early : Content := { id := .text "b", location := .text "/early" }
    let added : Content := { id := .text "a", key := .blob [0], mediaType := .null }
    let late : Content := { id := .text "a", location := .text "/late", mediaType := .text "" }
    let xs : List Step := [
      .openStore .content, .updateContent early, .addContent added, .addContent { id := .null },
      .updateContent late]
    let s := ((start .sqlite (.container false false)).run xs).2
    (s.step (.getContent (.text "b"))).1.answer = .error (.notFound .content) ∧
      (s.step (.getContent (.text "a"))).1.answer = .ok (.item (.content late.stored)) := by
  intro early added late xs s
  have hearly : early.Typed :=
    ⟨.inr ⟨_, rfl⟩, .inr ⟨_, rfl⟩, .inl rfl, .inl rfl, .inr ⟨_, rfl⟩⟩
  have hadded : added.Typed := ⟨.inr ⟨_, rfl⟩, .inr ⟨_, rfl⟩, .inl rfl, .inl rfl, .inl rfl⟩
  have hunnamed : ({ id := .null } : Content).Typed :=
    ⟨.inl rfl, .inr ⟨_, rfl⟩, .inl rfl, .inl rfl, .inr ⟨_, rfl⟩⟩
  have hlate : late.Typed := ⟨.inr ⟨_, rfl⟩, .inr ⟨_, rfl⟩, .inl rfl, .inl rfl, .inr ⟨_, rfl⟩⟩
  have hxs : ∀ x ∈ xs, x.isRaw = false ∧ x.isFixture = false ∧ x.ContentTyped := by
    simp only [xs, List.forall_mem_cons]
    exact ⟨⟨rfl, rfl, trivial⟩, ⟨rfl, rfl, hearly⟩, ⟨rfl, rfl, hadded⟩, ⟨rfl, rfl, hunnamed⟩,
      ⟨rfl, rfl, hlate⟩, List.forall_mem_nil _⟩
  have hall : ((start .sqlite (.container false false)).run xs).1.all Reply.succeeded = true := by
    decide +kernel
  obtain ⟨hget, -⟩ := contents_lastWritten .sqlite (w := .container false false) {} rfl hxs
    (by decide +kernel)
  rw [succeeded_eq_self hall] at hget
  refine ⟨(hget "b").1.2 ?_, ?_⟩
  · intro c hc
    simp only [xs, List.mem_cons, reduceCtorEq, Step.addContent.injEq, false_or, List.not_mem_nil,
      or_false] at hc
    rcases hc with rfl | rfl
    · decide
    · decide
  · obtain ⟨last, hlast, hanswer⟩ := (hget "a").2 added (by simp [xs]) rfl
    have heq : lastContent (.text "a") xs = some late := by decide +kernel
    rw [heq] at hlast
    cases hlast
    exact hanswer

end Session

end RightsStore
