import RightsStore.Proofs.Integrity
import RightsStore.Proofs.LastWrites

namespace RightsStore

def Step.addition? : Step → Option License
  | .addLicense l => some l
  | _ => none

def additions (history : List Step) : List License := history.filterMap Step.addition?

/-- What a step may do to ids and issues: it keeps them all, or adds a row that has an issue, and
an id of its own unless that is null. -/
inductive Step.IssuesChange (x : Step) (ok : Bool) (t t' : Rows LicenseRow) : Prop
  | kept {f : LicenseRow → LicenseRow} : ok = false ∨ x.addition? = none →
    (∀ r : LicenseRow, r.Keeps (f r)) → t' = t.map f → IssuesChange x ok t t'
  | added {l : License} {r : LicenseRow} : x = .addLicense l → ok = true →
    LicenseStore.Insertion l r → r.convert.issued ≠ .null →
    (∀ old ∈ t.toList, r.convert.id.matches old.id = false) → t' = t.add r.convert →
    IssuesChange x ok t t'

namespace Step

variable {d : Dialect} {enforce ok : Bool} {x : Step} {db db' : Database}

theorem issuesChange_of_eq {t t' : Rows LicenseRow} (hx : ok = false ∨ x.addition? = none)
    (h : t' = t) : x.IssuesChange ok t t' := by
  refine .kept hx LicenseRow.Keeps.refl ?_
  rw [h, Rows.map, List.map_id']

theorem addition?_of_not_writes (h : x.writes = false) : x.addition? = none := by
  cases x with
  | addLicense l => cases h
  | _ => rfl

theorem Effect.issues (h : x.Effect d enforce ok db db') :
    x.IssuesChange ok db.licenseEntries db'.licenseEntries := by
  cases h with
  | failed => exact issuesChange_of_eq (.inl rfl) rfl
  | read hx => exact issuesChange_of_eq (.inr (addition?_of_not_writes hx)) rfl
  | prepared hlicense => exact issuesChange_of_eq (.inr rfl) hlicense
  | opened => exact issuesChange_of_eq (.inr rfl) (db.openAll_grows d _).license
  | contentAdded hadd =>
    obtain ⟨_, _, _, -, -, -, rfl⟩ := ContentIndex.add_eq_ok hadd
    exact issuesChange_of_eq (.inr rfl) rfl
  | contentUpdated hupdate =>
    obtain ⟨_, _, _, -, -, -, rfl⟩ := ContentIndex.update_eq_ok hupdate
    exact issuesChange_of_eq (.inr rfl) rfl
  | licenseAdded hadd =>
    obtain ⟨t, t', r, ht, hr, hinsert, rfl⟩ := LicenseStore.add_eq_ok hadd
    obtain ⟨hnulls, hfresh, -, rfl⟩ := LicenseTable.enter_eq_ok hinsert
    rw [Database.licenseEntries_eq ht]
    exact .added rfl rfl hr (LicenseRow.checkNulls_eq_ok.1 hnulls).2.2.1 hfresh rfl
  | licenseUpdated hupdate =>
    obtain ⟨t, t', n, r, ht, -, hmodify, rfl⟩ := LicenseStore.update_eq_ok hupdate
    obtain ⟨rfl, -⟩ := LicenseTable.modify_eq_ok hmodify
    rw [Database.licenseEntries_eq ht]
    exact .kept (.inr rfl) (Database.merged_keeps fun _ => ⟨rfl, rfl⟩) rfl
  | rightsUpdated hupdate =>
    obtain ⟨t, t', r, ht, -, hmodify, rfl⟩ := LicenseStore.updateRights_eq_ok hupdate
    obtain ⟨rfl, -⟩ := LicenseTable.modify_eq_ok hmodify
    rw [Database.licenseEntries_eq ht]
    exact .kept (.inr rfl) (Database.merged_keeps fun _ => ⟨rfl, rfl⟩) rfl
  | statusSet hset =>
    obtain ⟨t, t', n, r, ht, -, hmodify, rfl⟩ := LicenseStore.setStatus_eq_ok hset
    obtain ⟨rfl, -⟩ := LicenseTable.modify_eq_ok hmodify
    rw [Database.licenseEntries_eq ht]
    exact .kept (.inr rfl) (Database.merged_keeps fun _ => ⟨rfl, rfl⟩) rfl

end Step

/-- The row that was made of this license, whatever has changed in it since. -/
structure License.Issues (l : License) (r : LicenseRow) : Prop where
  id : l.id = .cell r.id
  isText : l.id.IsText
  issued : l.issued.bind = .ok r.issued

theorem License.Issues.keeps {l : License} {r r' : LicenseRow} (h : l.Issues r) (hkeeps : r.Keeps r') :
    l.Issues r' := by
  refine ⟨?_, h.isText, ?_⟩
  · rw [hkeeps.id]
    exact h.id
  · rw [hkeeps.issued]
    exact h.issued

theorem LicenseStore.Insertion.issues {l : License} {r : LicenseRow} (h : Insertion l r)
    (hl : l.Typed) : l.Issues r.convert := by
  refine ⟨h.id.convert_id hl.id, hl.id, ?_⟩
  rw [LicenseRow.convert, Stamp.convert_of_bind h.issued]
  exact h.issued

structure Rows.IssuedBy (history : List Step) (t : Rows LicenseRow) : Prop where
  ordered : t.Consecutive
  rows : List.Forall₂ License.Issues (additions history) t.toList
  unique : UniqueIds LicenseRow.id t.toList

theorem Rows.IssuedBy.id_isText {history : List Step} {t : Rows LicenseRow} (h : IssuedBy history t) :
    ∀ r ∈ t.toList, (Datum.cell r.id).IsText := by
  have hrows : List.Forall₂ (fun r l => (Datum.cell r.id).IsText ∧ License.Issues l r) t.toList
      (additions history) := h.rows.flip.imp fun r l hl => ⟨hl.id ▸ hl.isText, hl⟩
  exact ((List.forall₂_and_left _ _).1 hrows).1

theorem Rows.IssuedBy.change {history : List Step} {x : Step} {ok : Bool} {t t' : Rows LicenseRow}
    (h : IssuedBy history t) (hx : x.Typed) (hchange : x.IssuesChange ok t t') :
    IssuedBy (history ++ if ok then [x] else []) t' := by
  cases hchange with
  | @kept f hnone hkeeps ht =>
    have hadditions : additions (history ++ if ok then [x] else []) = additions history := by
      rw [additions, List.filterMap_append]
      cases ok with
      | false => exact List.append_nil _
      | true =>
        have hx := hnone.resolve_left nofun
        simp [hx, additions]
    rw [ht]
    refine ⟨h.ordered.map f, ?_, ?_⟩
    · rw [hadditions, toList_map, List.forall₂_map_right_iff]
      exact h.rows.imp fun _ r hr => hr.keeps (hkeeps r)
    · rw [toList_map]
      exact h.unique.map fun r => (hkeeps r).id
  | @added l r hadd hok hr _ hfresh ht =>
    cases hadd
    cases hok
    rw [ht]
    refine ⟨h.ordered.add _, ?_, ?_⟩
    · rw [h.ordered.toList_add, additions, List.filterMap_append]
      exact List.rel_append h.rows (.cons (hr.issues hx) .nil)
    · rw [h.ordered.toList_add]
      exact h.unique.concat hfresh

namespace Database

variable {db db' : Database} {t t' : LicenseTable}

theorem license_of_relation? {name : String} (h : db.relation? name = some (.license t)) :
    db.license = some t := by
  obtain ⟨⟨name', r⟩, hfind, hr⟩ := Option.map_eq_some_iff.1 h
  cases hr
  have hmem := List.mem_of_find?_eq_some hfind
  simp only [relations, List.mem_append, List.mem_cons, List.not_mem_nil, Option.mem_toList,
    Option.map_eq_some_iff, Prod.mk.injEq, reduceCtorEq, and_false, exists_false, or_false,
    false_or] at hmem
  obtain ⟨t', ht', -, heq⟩ := hmem
  cases heq
  exact ht'

theorem relation?_of_destination? {schema : Option String} {name : String}
    (h : db.destination? schema name = some (.license t)) :
    db.relation? name = some (.license t) := by
  unfold destination? at h
  split at h
  · exact h
  · split at h
    · split at h
      · cases h
      · exact h
    · split at h
      · split at h
        · cases h
        · cases h
      · cases h

theorem license_of_resolve {i : Sql.Insertion} {targets : List Target}
    (h : db.resolve i = .ok (.license t, targets)) : db.license = some t := by
  unfold resolve at h
  split at h
  · cases h
  · cases h
  · rename_i r hdestination
    obtain ⟨targets', -, h⟩ := exists_of_bind_eq_ok h
    simp only at h
    split at h
    · cases h
    · split at h
      · cases h
        exact license_of_relation? (relation?_of_destination? hdestination)
      · cases h

def Dated (db : Database) : Prop := ∀ r ∈ db.licenseEntries.toList, r.issued ≠ .null

theorem dated_insertNumbered {number : Cell} {r : LicenseRow}
    (h : t.insertNumbered number r = .ok t')
    (ht : ∀ r ∈ t.entries.toList, r.issued ≠ .null) : ∀ r ∈ t'.entries.toList, r.issued ≠ .null := by
  obtain ⟨n, -, h⟩ := exists_of_bind_eq_ok h
  obtain ⟨hnulls, h⟩ := bind_unit_eq_ok.1 h
  obtain ⟨-, h⟩ := bind_unit_eq_ok.1 h
  have hissued := (LicenseRow.checkNulls_eq_ok.1 hnulls).2.2.1
  split at h
  · cases h
  · cases h
    intro old hold
    have hput : (t.entries.put n r.convert).toList.Perm (r.convert :: t.entries.toList) := by
      cases n with
      | none => exact Rows.toList_insertAt_perm ..
      | some n => exact Rows.toList_insertAt_perm ..
    rcases List.mem_cons.1 (hput.mem_iff.1 hold) with rfl | hold
    · exact hissued
    · exact ht old hold

theorem Dated.insertWorded {table : String} {values : List (String × Datum)} (hdb : db.Dated)
    (h : db.insertWorded table values = .ok db') : db'.Dated := by
  obtain ⟨sql, -, h⟩ := exists_of_bind_eq_ok h
  obtain ⟨⟨insertion, more⟩, -, h⟩ := exists_of_bind_eq_ok h
  obtain ⟨⟨relation, targets⟩, hresolve, h⟩ := exists_of_bind_eq_ok h
  obtain ⟨-, -, h⟩ := exists_of_bind_eq_ok h
  split at h
  · cases h
  · obtain ⟨bound, -, h⟩ := exists_of_bind_eq_ok h
    have hinsert := ofExecuted_eq_ok.1 h
    unfold insertInto at hinsert
    cases relation with
    | content t =>
      obtain ⟨_, -, hinsert⟩ := exists_of_bind_eq_ok hinsert
      cases hinsert
      exact hdb
    | license t =>
      obtain ⟨t', ht', hinsert⟩ := exists_of_bind_eq_ok hinsert
      cases hinsert
      refine dated_insertNumbered ht' ?_
      rw [← licenseEntries_eq (license_of_resolve (ofExecuted_eq_ok.1 hresolve))]
      exact hdb
    | other t =>
      obtain ⟨_, -, hinsert⟩ := exists_of_bind_eq_ok hinsert
      cases hinsert
      exact hdb
    | catalogue temporary => cases hinsert

end Database

namespace Session

variable {s : Session}

theorem dated_step (h : s.database.Dated) (x : Step) : (s.step x).2.database.Dated := by
  cases hraw : x.isRaw with
  | true =>
    cases x with
    | insertRaw table values =>
      rw [step_eq, outcome, insertRaw]
      split
      · rename_i db hinsert
        exact h.insertWorded hinsert
      · exact h
    | _ => cases hraw
  | false =>
    unfold Database.Dated at h ⊢
    cases (s.step_effect hraw).issues with
    | @kept f _ hkeeps ht =>
      rw [ht, Rows.toList_map, List.forall_mem_map]
      intro r hr
      rw [(hkeeps r).issued]
      exact h r hr
    | added _ _ _ hissued _ ht =>
      intro old hold
      rw [ht, Rows.mem_toList_add] at hold
      rcases hold with rfl | hold
      · exact hissued
      · exact h old hold

theorem dated_run (d : Dialect) (w : Wiring) (draws : Draws) (xs : List Step) :
    ((start d w draws).run xs).2.database.Dated := by
  have hstart : (start d w draws).database.Dated := by
    intro r hr
    cases hr
  have hxs : ∀ x ∈ xs, True := fun _ _ => trivial
  exact run_induction (P := fun s => s.database.Dated) hstart (fun _ x h _ => dated_step h x) hxs

theorem issuedBy_run (d : Dialect) (w : Wiring) (draws : Draws) {xs : List Step}
    (hxs : ∀ x ∈ xs, x.isRaw = false ∧ x.Typed) :
    Rows.IssuedBy ((start d w draws).succeeded xs)
      ((start d w draws).run xs).2.database.licenseEntries := by
  have hstart : Rows.IssuedBy [] (start d w draws).database.licenseEntries :=
    ⟨.empty _, .nil, List.Pairwise.nil⟩
  refine history_induction (P := fun history s => Rows.IssuedBy history s.database.licenseEntries)
    hstart ?_ hxs
  rintro history s x h ⟨hraw, htyped⟩
  exact h.change htyped (s.step_effect hraw).issues

end Session

end RightsStore
