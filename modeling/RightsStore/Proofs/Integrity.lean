import RightsStore.Proofs.History

namespace RightsStore

namespace RealText

theorem positive_ne_nil (q : Rat) : positive q ≠ [] := by
  unfold positive
  simp only
  split
  · exact List.append_ne_nil_of_right_ne_nil _ (List.cons_ne_nil _ _)
  · split
    · exact List.cons_ne_nil _ _
    · exact List.append_ne_nil_of_right_ne_nil _ (List.cons_ne_nil _ _)

theorem ofDouble_ne_nil (x : Double) : ofDouble x ≠ [] := by
  cases x with
  | infinite s => cases s <;> simp [ofDouble]
  | finite q =>
    by_cases hq : q = 0
    · simp [ofDouble, hq]
    · simp [ofDouble, hq, positive_ne_nil]

end RealText

theorem toString_int_ne_empty (n : Int) : toString n ≠ "" := by
  cases n with
  | ofNat n => exact Nat.repr_ne_empty
  | negSucc n =>
    intro h
    have hlist : ("-" ++ (n + 1).repr).toList = [] := congrArg String.toList h
    rw [String.toList_append] at hlist
    cases hlist

theorem Affinity.isEmpty_text_convert {c : Cell} (h : (Datum.cell c).isEmpty = false) :
    (Datum.cell (text.convert c)).isEmpty = false := by
  cases c with
  | null => cases h
  | int n =>
    have hne := toString_int_ne_empty n
    simpa [convert, Datum.isEmpty, Datum.document, Document.isEmpty, Leaf.isEmpty] using hne
  | real x =>
    have hne := RealText.ofDouble_ne_nil x
    simpa [convert, Datum.isEmpty, Datum.document, Document.isEmpty, Leaf.isEmpty] using hne
  | text s => exact h
  | blob b => exact h

theorem Datum.Bound.not_isEmpty {d : Datum} {c : Cell} (h : d.Bound c) (hd : d.isEmpty = false) :
    c = .null ∨ (Datum.cell c).isEmpty = false := by
  obtain ⟨k, hk⟩ := h
  cases d with
  | cell c' =>
    refine .inr ?_
    cases c' with
    | int n =>
      rw [Datum.bind] at hk
      split at hk
      · cases hk
        exact hd
      · cases hk
    | null => cases hd
    | real x => cases hk; exact hd
    | text s => cases hk; exact hd
    | blob b => cases hk; exact hd
  | irregular x =>
    cases x with
    | negativeZero => cases hd
    | notNumber =>
      cases hk
      exact .inl rfl
  | flag b =>
    cases b with
    | false => cases hd
    | true =>
      cases hk
      exact .inr rfl
  | composite d => cases hk

theorem Content.storedType_not_isEmpty (c : Content) : c.storedType.isEmpty = false := by
  rw [storedType]
  cases h : c.mediaType.isEmpty with
  | true =>
    rw [if_pos rfl]
    decide
  | false => exact h

def Cell.IsStamp (c : Cell) : Prop := c = .null ∨ ∃ u, c.IsMoment u

def Cell.IsWholeStamp (c : Cell) : Prop :=
  c = .null ∨ ∃ u, c.IsMoment u ∧ u.wall % Calendar.second = 0

structure ContentRow.Sound (r : ContentRow) : Prop where
  key : r.key ≠ .null
  location : r.location ≠ .null
  mediaType : (Datum.cell r.mediaType).isEmpty = false

structure LicenseRow.Sound (contents : List ContentRow) (r : LicenseRow) : Prop where
  reference : ∃ c ∈ contents, r.contentId.matches c.id = true
  user : r.userId ≠ .null
  provider : r.provider ≠ .null
  issued : r.issued ≠ .null
  issuedStamp : r.issued.IsStamp
  updated : r.updated.IsWholeStamp
  start : r.start.IsStamp
  stop : r.stop.IsStamp

def UniqueIds (id : ρ → Cell) (rows : List ρ) : Prop :=
  rows.Pairwise fun a b => (id a).matches (id b) = false

/-- What a database holds that follows references and that only the stores write. -/
structure Database.Sound (db : Database) : Prop where
  contents : ∀ r ∈ db.contentRows, r.Sound
  licenses : ∀ r ∈ db.licenseRows, r.Sound db.contentRows
  contentIds : UniqueIds ContentRow.id db.contentRows
  licenseIds : UniqueIds LicenseRow.id db.licenseRows

theorem UniqueIds.concat {id : ρ → Cell} {rows : List ρ} {r : ρ} (h : UniqueIds id rows)
    (hr : ∀ old ∈ rows, (id r).matches (id old) = false) : UniqueIds id (rows ++ [r]) := by
  rw [UniqueIds, List.pairwise_append]
  refine ⟨h, List.pairwise_singleton .., ?_⟩
  intro a ha b hb
  rw [List.mem_singleton] at hb
  subst hb
  rw [Cell.matches_comm]
  exact hr a ha

theorem UniqueIds.map {id : ρ → Cell} {rows : List ρ} {f : ρ → ρ} (h : UniqueIds id rows)
    (hf : ∀ r, id (f r) = id r) : UniqueIds id (rows.map f) := by
  rw [UniqueIds, List.pairwise_map]
  apply List.Pairwise.imp _ h
  intro a b hab
  rw [hf, hf]
  exact hab

theorem Stamp.isStamp_of_bind {s : Stamp} {c : Cell} (h : s.bind = .ok c) :
    (Affinity.numeric.convert c).IsStamp := by
  rw [convert_of_bind h]
  rcases bind_eq_ok h with ⟨-, rfl⟩ | ⟨t, u, -, -, hc⟩
  · exact .inl rfl
  · exact .inr ⟨u, hc⟩

theorem Moment.Stamps.isWholeStamp {clock : Moment} {c : Cell} (h : clock.Stamps c) :
    c.IsWholeStamp := by
  obtain ⟨t, -, hc⟩ := h.isMoment
  exact .inr ⟨t.wholeSecond, hc, t.wall_wholeSecond_mod⟩

theorem ContentRow.Sound.convert {c : Content} {r : ContentRow} {layout : ContentLayout}
    (h : ContentIndex.Binds c r) (hnulls : (r.convert layout).checkNulls = .ok ()) :
    (r.convert layout).Sound := by
  obtain ⟨hkey, hlocation, htype⟩ := ContentRow.checkNulls_eq_ok.1 hnulls
  refine ⟨hkey, hlocation, ?_⟩
  rcases h.mediaType.not_isEmpty c.storedType_not_isEmpty with hnull | hfull
  · refine absurd ?_ htype
    rw [ContentRow.convert, hnull]
    rfl
  · exact Affinity.isEmpty_text_convert hfull

theorem LicenseRow.Sound.of_contents {contents contents' : List ContentRow} {r : LicenseRow}
    (h : r.Sound contents) (hids : ∀ c ∈ contents, ∃ c' ∈ contents', c'.id = c.id) :
    r.Sound contents' := by
  obtain ⟨c, hc, hreference⟩ := h.reference
  obtain ⟨c', hc', hid⟩ := hids c hc
  rw [← hid] at hreference
  exact { h with reference := ⟨c', hc', hreference⟩ }

structure Database.Ordered (db : Database) : Prop where
  hasType : db.HasType
  contents : db.contentEntries.Consecutive
  licenses : db.licenseEntries.Consecutive

def ContentRow.Keeps (old new : ContentRow) : Prop := new.id = old.id

structure LicenseRow.Keeps (old new : LicenseRow) : Prop where
  id : new.id = old.id
  issued : new.issued = old.issued

theorem ContentRow.Keeps.refl (r : ContentRow) : r.Keeps r := rfl

theorem LicenseRow.Keeps.refl (r : LicenseRow) : r.Keeps r := ⟨rfl, rfl⟩

/-- All rows are still there, in their order, with their ids and the issues of the licenses. -/
structure Database.Keeps (old new : Database) : Prop where
  contents : old.contentEntries.Extends ContentRow.Keeps new.contentEntries
  licenses : old.licenseEntries.Extends LicenseRow.Keeps new.licenseEntries

structure Database.Advances (old new : Database) : Prop where
  sound : new.Sound
  ordered : new.Ordered
  keeps : old.Keeps new

namespace Database

variable {db db' : Database}

theorem Advances.refl (h : db.Sound) (ho : db.Ordered) : db.Advances db :=
  ⟨h, ho, Rows.Extends.refl ContentRow.Keeps.refl _, Rows.Extends.refl LicenseRow.Keeps.refl _⟩

theorem Advances.of_entries (h : db.Sound) (ho : db.Ordered)
    (htype : db'.HasType) (hcontent : db'.contentEntries = db.contentEntries)
    (hlicense : db'.licenseEntries = db.licenseEntries) : db.Advances db' := by
  have hcontents : db'.contentRows = db.contentRows := by
    rw [contentRows_eq, contentRows_eq, hcontent]
  have hlicenses : db'.licenseRows = db.licenseRows := by
    rw [licenseRows_eq, licenseRows_eq, hlicense]
  have hself := Advances.refl h ho
  refine ⟨⟨?_, ?_, ?_, ?_⟩, ⟨htype, ?_, ?_⟩, ⟨?_, ?_⟩⟩
  · rw [hcontents]
    exact h.contents
  · rw [hcontents, hlicenses]
    exact h.licenses
  · rw [hcontents]
    exact h.contentIds
  · rw [hlicenses]
    exact h.licenseIds
  · rw [hcontent]
    exact ho.contents
  · rw [hlicense]
    exact ho.licenses
  · rw [hcontent]
    exact hself.keeps.contents
  · rw [hlicense]
    exact hself.keeps.licenses

theorem Advances.of_contents (h : db.Sound) (ho : db.Ordered) {t t' : ContentTable}
    (ht : db.content = some t) (hsound : ∀ r ∈ t'.rows, r.Sound)
    (hids : ∀ c ∈ t.rows, ∃ c' ∈ t'.rows, c'.id = c.id) (hunique : UniqueIds ContentRow.id t'.rows)
    (hordered : t'.entries.Consecutive)
    (hkeeps : t.entries.Extends ContentRow.Keeps t'.entries) (hlayout : t'.layout = t.layout) :
    db.Advances { db with content := some t' } := by
  have hrows : db.contentRows = t.rows := by rw [contentRows_eq, contentEntries_eq ht]; rfl
  have htype := ho.hasType.put ht hlayout
  refine ⟨⟨hsound, ?_, hunique, h.licenseIds⟩, ⟨htype, hordered, ho.licenses⟩, ⟨?_, ?_⟩⟩
  · intro r hr
    have hr' := h.licenses r hr
    rw [hrows] at hr'
    exact hr'.of_contents hids
  · rw [contentEntries_eq ht]
    exact hkeeps
  · exact (Advances.refl h ho).keeps.licenses

theorem Advances.of_licenses (h : db.Sound) (ho : db.Ordered) {t t' : LicenseTable}
    (ht : db.license = some t) (hsound : ∀ r ∈ t'.rows, r.Sound db.contentRows)
    (hunique : UniqueIds LicenseRow.id t'.rows) (hordered : t'.entries.Consecutive)
    (hkeeps : t.entries.Extends LicenseRow.Keeps t'.entries) :
    db.Advances { db with license := some t' } := by
  refine ⟨⟨h.contents, hsound, h.contentIds, hunique⟩, ⟨ho.hasType, ho.contents, hordered⟩,
    ⟨?_, ?_⟩⟩
  · exact (Advances.refl h ho).keeps.contents
  · rw [licenseEntries_eq ht]
    exact hkeeps

theorem Advances.contentAdded (h : db.Sound) (ho : db.Ordered) {c : Content}
    (hadd : ContentIndex.add db c = .ok db') : db.Advances db' := by
  obtain ⟨t, t', r, ht, hr, hinsert, rfl⟩ := ContentIndex.add_eq_ok hadd
  obtain ⟨hnulls, hfresh, rfl⟩ := ContentTable.insert_eq_ok hinsert
  have hrows : db.contentRows = t.rows := by rw [contentRows_eq, contentEntries_eq ht]; rfl
  have hordered := ho.contents
  rw [contentEntries_eq ht] at hordered
  have hnew := hordered.toList_add (r.convert t.layout)
  apply Advances.of_contents h ho ht
  · intro r' hr'
    rw [ContentTable.rows, hnew, List.mem_append, List.mem_singleton] at hr'
    cases hr' with
    | inl hold =>
      apply h.contents
      rw [hrows]
      exact hold
    | inr hadded =>
      rw [hadded]
      exact ContentRow.Sound.convert hr hnulls
  · intro old hold
    refine ⟨old, ?_, rfl⟩
    rw [ContentTable.rows, hnew]
    exact List.mem_append_left _ hold
  · rw [ContentTable.rows, hnew]
    refine UniqueIds.concat ?_ hfresh
    rw [← ContentTable.rows, ← hrows]
    exact h.contentIds
  · exact hordered.add _
  · exact hordered.extends_add ContentRow.Keeps.refl _
  · rfl

theorem id_replaced (r old : ContentRow) : (ContentTable.replaced r old).id = old.id := by
  rw [ContentTable.replaced]
  split
  · rename_i hmatches
    exact (Cell.matches_iff.1 hmatches).2
  · rfl

theorem Advances.contentUpdated (h : db.Sound) (ho : db.Ordered) {c : Content}
    (hupdate : ContentIndex.update db c = .ok db') : db.Advances db' := by
  obtain ⟨t, t', r, ht, hr, hchange, rfl⟩ := ContentIndex.update_eq_ok hupdate
  obtain ⟨hnulls, rfl⟩ := ContentTable.update_eq_ok hchange
  have hrows : db.contentRows = t.rows := by rw [contentRows_eq, contentEntries_eq ht]; rfl
  have hordered := ho.contents
  rw [contentEntries_eq ht] at hordered
  apply Advances.of_contents h ho ht
  · intro r' hr'
    rw [ContentTable.rows, Rows.toList_map, List.mem_map] at hr'
    obtain ⟨old, hold, rfl⟩ := hr'
    rw [ContentTable.replaced]
    split
    · rename_i hmatches
      exact ContentRow.Sound.convert hr (hnulls ⟨old, hold, hmatches⟩)
    · apply h.contents
      rw [hrows]
      exact hold
  · intro old hold
    refine ⟨ContentTable.replaced (r.convert t.layout) old, ?_, id_replaced ..⟩
    rw [ContentTable.rows, Rows.toList_map]
    exact List.mem_map_of_mem hold
  · rw [ContentTable.rows, Rows.toList_map]
    refine UniqueIds.map ?_ (id_replaced _)
    rw [← ContentTable.rows, ← hrows]
    exact h.contentIds
  · exact hordered.map _
  · exact Rows.extends_map (id_replaced _) _
  · rfl

theorem Advances.licenseAdded (h : db.Sound) (ho : db.Ordered) {l : License}
    (hadd : LicenseStore.add true db l = .ok db') : db.Advances db' := by
  obtain ⟨t, t', r, ht, hr, hinsert, rfl⟩ := LicenseStore.add_eq_ok hadd
  obtain ⟨hnulls, hfresh, hreference, rfl⟩ := LicenseTable.enter_eq_ok hinsert
  have hrows : db.licenseRows = t.rows := by rw [licenseRows_eq, licenseEntries_eq ht]; rfl
  have hordered := ho.licenses
  rw [licenseEntries_eq ht] at hordered
  have hnew := hordered.toList_add r.convert
  apply Advances.of_licenses h ho ht
  · intro r' hr'
    rw [LicenseTable.rows, hnew, List.mem_append, List.mem_singleton] at hr'
    cases hr' with
    | inl hold =>
      apply h.licenses
      rw [hrows]
      exact hold
    | inr hadded =>
      obtain ⟨huser, hprovider, hissued, -⟩ := LicenseRow.checkNulls_eq_ok.1 hnulls
      rw [hadded]
      exact {
        reference := LicenseTable.checkReference_eq_ok.1 hreference
        user := huser
        provider := hprovider
        issued := hissued
        issuedStamp := Stamp.isStamp_of_bind hr.issued
        updated := .inl (congrArg Affinity.numeric.convert hr.updated)
        start := Stamp.isStamp_of_bind hr.rights.start
        stop := Stamp.isStamp_of_bind hr.rights.stop }
  · rw [LicenseTable.rows, hnew]
    refine UniqueIds.concat ?_ hfresh
    rw [← LicenseTable.rows, ← hrows]
    exact h.licenseIds
  · exact hordered.add _
  · exact hordered.extends_add LicenseRow.Keeps.refl _

theorem merged_keeps {new : LicenseRow} {merge : (old new : LicenseRow) → LicenseRow}
    (hmerge : ∀ old : LicenseRow, old.Keeps (merge old new)) (old : LicenseRow) :
    old.Keeps (LicenseTable.merged new merge old) := by
  rw [LicenseTable.merged]
  split
  · exact hmerge old
  · exact .refl old

theorem Advances.licenseChanged (h : db.Sound) (ho : db.Ordered) {t : LicenseTable}
    (ht : db.license = some t) {new : LicenseRow} {merge : (old new : LicenseRow) → LicenseRow}
    (hmerge : ∀ old : LicenseRow, old.Keeps (merge old new))
    (hsound : ∀ old, old.Sound db.contentRows → (merge old new).Sound db.contentRows) :
    db.Advances { db with license := some { t with
      entries := t.entries.map (LicenseTable.merged new merge) } } := by
  have hrows : db.licenseRows = t.rows := by rw [licenseRows_eq, licenseEntries_eq ht]; rfl
  have hordered := ho.licenses
  rw [licenseEntries_eq ht] at hordered
  have hkeeps := merged_keeps hmerge
  apply Advances.of_licenses h ho ht
  · intro r hr
    rw [LicenseTable.rows, Rows.toList_map, List.mem_map] at hr
    obtain ⟨old, hold, rfl⟩ := hr
    rw [← LicenseTable.rows, ← hrows] at hold
    rw [LicenseTable.merged]
    split
    · exact hsound old (h.licenses old hold)
    · exact h.licenses old hold
  · rw [LicenseTable.rows, Rows.toList_map]
    apply UniqueIds.map
    · rw [← LicenseTable.rows, ← hrows]
      exact h.licenseIds
    · intro old
      exact (hkeeps old).id
  · exact hordered.map _
  · exact Rows.extends_map hkeeps _

theorem Advances.licenseUpdated (h : db.Sound) (ho : db.Ordered) {l : License} {clock : Moment}
    (hupdate : LicenseStore.update true db l clock = .ok db') : db.Advances db' := by
  obtain ⟨t, t', n, r, ht, hr, hmodify, rfl⟩ := LicenseStore.update_eq_ok hupdate
  obtain ⟨heq, ⟨-, rfl⟩ | ⟨-, old, -, hcheck⟩⟩ := LicenseTable.modify_eq_ok hmodify
  · exact .of_entries h ho ho.hasType rfl (licenseEntries_eq ht).symm
  · obtain ⟨hnulls, hreference⟩ := bind_unit_eq_ok.1 hcheck
    obtain ⟨huser, hprovider, -, -⟩ := LicenseRow.checkNulls_eq_ok.1 hnulls
    rw [heq]
    -- one row was checked, but for what the new row gives to every row
    apply Advances.licenseChanged h ho ht
    · intro old
      exact ⟨rfl, rfl⟩
    · intro old hold
      exact {
        reference := LicenseTable.checkReference_eq_ok.1 hreference
        user := huser
        provider := hprovider
        issued := hold.issued
        issuedStamp := hold.issuedStamp
        updated := hr.updated.convert.isWholeStamp
        start := Stamp.isStamp_of_bind hr.rights.start
        stop := Stamp.isStamp_of_bind hr.rights.stop }

theorem Advances.rightsUpdated (h : db.Sound) (ho : db.Ordered) {l : License} {clock : Moment}
    {n : Nat} (hupdate : LicenseStore.updateRights db l clock = .ok (db', n)) :
    db.Advances db' := by
  obtain ⟨t, t', r, ht, hr, hmodify, rfl⟩ := LicenseStore.updateRights_eq_ok hupdate
  obtain ⟨rfl, -⟩ := LicenseTable.modify_eq_ok hmodify
  apply Advances.licenseChanged h ho ht
  · intro old
    exact ⟨rfl, rfl⟩
  · intro old hold
    exact {
      hold with
      updated := hr.updated.convert.isWholeStamp
      start := Stamp.isStamp_of_bind hr.rights.start
      stop := Stamp.isStamp_of_bind hr.rights.stop }

theorem Advances.statusSet (h : db.Sound) (ho : db.Ordered) {id status : Datum}
    (hset : LicenseStore.setStatus db id status = .ok db') : db.Advances db' := by
  obtain ⟨t, t', n, r, ht, -, hmodify, rfl⟩ := LicenseStore.setStatus_eq_ok hset
  obtain ⟨rfl, -⟩ := LicenseTable.modify_eq_ok hmodify
  apply Advances.licenseChanged h ho ht
  · intro old
    exact ⟨rfl, rfl⟩
  · intro old hold
    exact { hold with }

theorem Advances.effect (h : db.Sound) (ho : db.Ordered) {d : Dialect} {ok : Bool} {x : Step}
    (hx : x.isFixture = false) (he : x.Effect d true ok db db') : db.Advances db' := by
  cases he with
  | failed => exact .refl h ho
  | read => exact .refl h ho
  | prepared => cases hx
  | opened =>
    rename_i t ts
    have hgrows := db.openAll_grows d ts
    exact .of_entries h ho (hgrows.hasType ho.hasType) (hgrows.content ho.hasType) hgrows.license
  | contentAdded hadd => exact .contentAdded h ho hadd
  | contentUpdated hupdate => exact .contentUpdated h ho hupdate
  | licenseAdded hadd => exact .licenseAdded h ho hadd
  | licenseUpdated hupdate => exact .licenseUpdated h ho hupdate
  | rightsUpdated hupdate => exact .rightsUpdated h ho hupdate
  | statusSet hset => exact .statusSet h ho hset

theorem sound_empty (draws : Draws) : Sound { draws } := by
  refine ⟨?_, ?_, List.Pairwise.nil, List.Pairwise.nil⟩
  · intro r hr
    cases hr
  · intro r hr
    cases hr

end Database

namespace Session

structure Sound (s : Session) : Prop where
  ready : s.Ready
  enforce : s.enforce = true
  database : s.database.Sound
  ordered : s.database.Ordered

theorem Sound.advances {s : Session} (h : s.Sound) {x : Step} (hraw : x.isRaw = false)
    (hfixture : x.isFixture = false) : s.database.Advances (s.step x).2.database := by
  have heffect := s.step_effect hraw
  rw [h.enforce] at heffect
  exact .effect h.database h.ordered hfixture heffect

theorem Sound.step {s : Session} (h : s.Sound) {x : Step} (hraw : x.isRaw = false)
    (hfixture : x.isFixture = false) : (s.step x).2.Sound := by
  obtain ⟨hready, henforce⟩ := ready_step h.ready x
  have hadvances := h.advances hraw hfixture
  exact ⟨hready, henforce.trans h.enforce, hadvances.sound, hadvances.ordered⟩

/-- However a session has gone on that follows references and that nothing but its stores has
written, the database is sound, and whatever is done next, it keeps its rows. -/
theorem database_sound (d : Dialect) {w : Wiring} (draws : Draws) (hw : w.isFresh = true)
    (henforce : (start d w draws).enforce = true) {xs : List Step}
    (hxs : ∀ x ∈ xs, x.isRaw = false ∧ x.isFixture = false) :
    ((start d w draws).run xs).2.database.Sound ∧
      ∀ x, x.isRaw = false → x.isFixture = false →
        ((start d w draws).run xs).2.database.Keeps
          (((start d w draws).run xs).2.step x).2.database := by
  have hstart : (start d w draws).Sound :=
    ⟨ready_start d draws hw, henforce, Database.sound_empty draws, ⟨nofun, .empty _, .empty _⟩⟩
  have hsound : ((start d w draws).run xs).2.Sound := by
    apply run_induction hstart ?_ hxs
    intro s x hs hx
    exact hs.step hx.1 hx.2
  refine ⟨hsound.database, ?_⟩
  intro x hraw hfixture
  exact (hsound.advances hraw hfixture).keeps

theorem database_sound_of_license_added :
    let xs : List Step := [
      .openStore .content, .addContent { id := .text "c" }, .openStore .license,
      .addLicense {
        id := .text "a", issued := .moment ⟨0, by decide, none⟩, contentId := .text "c" }]
    ((start .sqlite (.container false false)).run xs).2.database.licenseRows.length = 1 ∧
      ((start .sqlite (.container false false)).run xs).2.database.Sound := by
  intro xs
  have hxs : ∀ x ∈ xs, x.isRaw = false ∧ x.isFixture = false := by
    simp only [xs, List.forall_mem_cons]
    exact ⟨⟨rfl, rfl⟩, ⟨rfl, rfl⟩, ⟨rfl, rfl⟩, ⟨rfl, rfl⟩, List.forall_mem_nil _⟩
  refine ⟨by decide +kernel, ?_⟩
  exact (database_sound .sqlite (w := .container false false) {} rfl rfl hxs).1

end Session

end RightsStore
