import RightsStore.Proofs.Lockstep

namespace RightsStore

theorem Rows.map_put (f : ρ → ρ) (t : Rows ρ) (number : Option Int) (r : ρ) :
    (t.put number r).map f = (t.map f).put number (f r) := by
  cases number with
  | some n => exact map_insertAt t n r f
  | none => rw [put_none, put_none, map_add]

section Seen

variable (k : Keys)

def ContentTable.seen (t : ContentTable) : ContentTable :=
  { t with entries := t.entries.map (ContentRow.seen k) }

def Relation.seen : Relation → Relation
  | .content t => .content (t.seen k)
  | r => r

def Database.seen (db : Database) : Database :=
  { db with content := db.content.map (ContentTable.seen k) }

end Seen

variable {k : Keys}

namespace ContentTable

variable {t t' : ContentTable}

theorem fields_of_seen (h : t'.seen k = t.seen k) :
    t'.layout = t.layout ∧
      t'.entries.map (ContentRow.seen k) = t.entries.map (ContentRow.seen k) := by
  simpa only [seen, mk.injEq] using h

theorem rows_of_seen (h : t'.seen k = t.seen k) :
    t'.rows.map (ContentRow.seen k) = t.rows.map (ContentRow.seen k) := by
  have hrows (t : ContentTable) : t.rows.map (ContentRow.seen k) = (t.seen k).rows := by
    rw [ContentTable.rows, ContentTable.rows, seen, Rows.toList_map]
  rw [hrows, hrows, h]

theorem put_of_seen (h : t'.seen k = t.seen k) (number : Option Int) {r r' : ContentRow}
    (hr : r'.seen k = r.seen k) :
    ContentTable.seen k { t' with entries := t'.entries.put number r' } =
      ContentTable.seen k { t with entries := t.entries.put number r } := by
  obtain ⟨hlayout, hentries⟩ := fields_of_seen h
  simp only [seen, Rows.map_put, hlayout, hentries, hr]

theorem replaced_of_seen (h : t'.seen k = t.seen k) {r r' : ContentRow}
    (hr : r'.seen k = r.seen k) :
    ContentTable.seen k { t' with entries := t'.entries.map (replaced r') } =
      ContentTable.seen k { t with entries := t.entries.map (replaced r) } := by
  have hreplaced (r old : ContentRow) :
      (replaced r old).seen k = replaced (r.seen k) (old.seen k) := by
    rw [replaced, replaced]
    exact apply_ite (ContentRow.seen k) _ r old
  have hmap (r : ContentRow) (es : Rows ContentRow) :
      (es.map (replaced r)).map (ContentRow.seen k) =
        (es.map (ContentRow.seen k)).map (replaced (r.seen k)) := by
    simp only [Rows.map, List.map_map, Function.comp_def, hreplaced]
  obtain ⟨hlayout, hentries⟩ := fields_of_seen h
  simp only [seen, hmap, hlayout, hentries, hr]

theorem extend_of_seen (h : t'.seen k = t.seen k) (c : Column) :
    (t'.extend c).seen k = (t.extend c).seen k := by
  have hseen (c : Cell) : (c.seen k).seen k = c.seen k := by
    cases c <;> cases k <;> rfl
  have hset (r : ContentRow) (value : Cell) :
      ((r.seen k).set c.name value).seen k = (r.set c.name value).seen k := by
    unfold ContentRow.set
    split <;> simp [ContentRow.seen, hseen]
  have hmap (value : Cell) (es : Rows ContentRow) :
      ((es.map (ContentRow.seen k)).map (·.set c.name value)).map (ContentRow.seen k) =
        (es.map (·.set c.name value)).map (ContentRow.seen k) := by
    simp only [Rows.map, List.map_map, Function.comp_def, hset]
  obtain ⟨-, hentries⟩ := fields_of_seen h
  simp only [seen, extend]
  rw [← hmap, hentries, hmap]

theorem insertNumbered_of_seen (h : t'.seen k = t.seen k) (number : Cell) (r : ContentRow) :
    SameOutcome (fun t t' => t'.seen k = t.seen k) (t.insertNumbered number r)
      (t'.insertNumbered number r) := by
  obtain ⟨hlayout, -⟩ := fields_of_seen h
  have hnumbers : t'.entries.numbers = t.entries.numbers := by
    have hseen (t : ContentTable) : (t.seen k).entries.numbers = t.entries.numbers :=
      Rows.numbers_map ..
    rw [← hseen t', h, hseen t]
  have hcheck : t'.entries.checkNumber "content" = t.entries.checkNumber "content" := by
    funext number
    cases number with
    | none => rfl
    | some n => rw [Rows.checkNumber, Rows.checkNumber, hnumbers]
  unfold insertNumbered
  rw [hlayout, hcheck]
  simp only [ContentRow.any_matches_of_seen (rows_of_seen h)]
  refine .bind_same fun number _ => .bind_same fun _ _ => .bind_same fun _ _ => ?_
  split
  · exact .error _
  · have hput := put_of_seen h number (r := r.convert t.layout) rfl
    rw [hlayout] at hput
    exact .ok hput

end ContentTable

/-- One dialect, and content tables that are the same but for the bytes of keys. -/
def Comparison.hidden (d : Dialect) : Comparison where
  keys := .hidden
  left := d
  right := d
  Declared := Eq
  declared := rfl
  Tables _ t t' := t'.seen .hidden = t.seen .hidden
  hasType h := congrArg (fun t => t.layout.hasType) h
  rows h := ContentTable.rows_of_seen h
  less h := h
  add h hr := ContentTable.put_of_seen h none hr
  replace h hr := ContentTable.replaced_of_seen h hr
  created _ _ := rfl
  extended h _ := ⟨rfl, ContentTable.extend_of_seen h⟩

section Raw

variable {db db' : Database}

theorem Relation.columns_seen (r : Relation) : (r.seen k).columns = r.columns := by
  cases r <;> rfl

theorem Relation.targets_seen (r : Relation) (i : Sql.Insertion) :
    (r.seen k).targets i = r.targets i := by
  have htarget (name : String) : (r.seen k).target? name = r.target? name := by
    rw [target?, target?, columns_seen]
  simp only [targets, columns_seen, htarget]

namespace Database

theorem fields_of_seen (h : db'.seen k = db.seen k) :
    db'.content.map (ContentTable.seen k) = db.content.map (ContentTable.seen k) ∧
      db'.license = db.license ∧ db'.other = db.other ∧ db'.draws = db.draws := by
  simpa only [seen, mk.injEq] using h

theorem relation?_seen (db : Database) (name : String) :
    (db.seen k).relation? name = (db.relation? name).map (Relation.seen k) := by
  have hrelations : (db.seen k).relations = db.relations.map (Prod.map id (Relation.seen k)) := by
    cases hc : db.content <;> cases hl : db.license <;> cases ho : db.other <;>
      simp [relations, seen, hc, hl, ho, Relation.seen]
  rw [relation?, relation?, hrelations, List.find?_map, Option.map_map, Option.map_map]
  rfl

theorem columns_seen (db : Database) (name : String) : (db.seen k).columns name = db.columns name := by
  rw [columns, columns, relation?_seen, Option.map_map]
  congr 2
  funext r
  exact r.columns_seen

theorem destination?_seen (db : Database) (schema : Option String) (name : String) :
    (db.seen k).destination? schema name = (db.destination? schema name).map (Relation.seen k) := by
  unfold destination?
  rw [relation?_seen]
  cases schema with
  | none => rfl
  | some s =>
    simp only
    split
    · match db.relation? name with
      | none => rfl
      | some (.catalogue true) => rfl
      | some (.catalogue false) => rfl
      | some (.content t) => rfl
      | some (.license t) => rfl
      | some (.other t) => rfl
    · split
      · match db.relation? name with
        | none => rfl
        | some (.catalogue temporary) => rfl
        | some (.content t) => rfl
        | some (.license t) => rfl
        | some (.other t) => rfl
      · rfl

theorem resolve_seen (db : Database) (i : Sql.Insertion) :
    (db.seen k).resolve i = (db.resolve i).map (Prod.map (Relation.seen k) id) := by
  have htargets (t : ContentTable) :
      (Relation.content (t.seen k)).targets i = (Relation.content t).targets i :=
    Relation.targets_seen (.content t) i
  unfold resolve
  rw [destination?_seen]
  cases hd : db.destination? i.schema i.table with
  | none => rfl
  | some r =>
    cases r with
    | catalogue temporary => rfl
    | content t | license t | other t =>
      simp only [Option.map_some, Relation.seen, htargets]
      generalize Relation.targets _ i = x
      cases x with
      | error e => rfl
      | ok targets =>
        simp only [ok_bind]
        cases i.column? with
        | some name => rfl
        | none =>
          simp only
          split
          · rfl
          · rfl

theorem insertInto_of_seen (h : db'.seen k = db.seen k) {r r' : Relation}
    (hr : r'.seen k = r.seen k) (values : List (Target × Cell)) :
    SameOutcome (fun new new' => new'.seen k = new.seen k) (db.insertInto r values)
      (db'.insertInto r' values) := by
  obtain ⟨hcontent, hlicense, hother, hdraws⟩ := fields_of_seen h
  cases r with
  | content t =>
    cases r' with
    | content t' =>
      have hrow := ContentTable.insertNumbered_of_seen (Relation.content.inj hr)
      refine (hrow _ _).bind fun t t' ht => .ok ?_
      simp only [seen, hlicense, hother, hdraws, Option.map_some, ht]
    | _ => cases hr
  | license t =>
    cases r' with
    | license t' =>
      cases hr
      exact .bind_same fun t _ => .ok (by simp only [seen, hcontent, hother, hdraws])
    | _ => cases hr
  | other t =>
    cases r' with
    | other t' =>
      cases hr
      exact .bind_same fun t _ => .ok (by simp only [seen, hcontent, hlicense, hdraws])
    | _ => cases hr
  | catalogue temporary =>
    cases r' with
    | catalogue temporary' =>
      cases hr
      exact .error _
    | _ => cases hr

theorem insertWorded_of_seen (h : db'.seen k = db.seen k) (table : String)
    (values : List (String × Datum)) :
    SameOutcome (fun new new' => new'.seen k = new.seen k) (db.insertWorded table values)
      (db'.insertWorded table values) := by
  unfold insertWorded
  refine .bind_same fun sql _ => .bind_same fun p _ => ?_
  obtain ⟨insertion, more⟩ := p
  have hresolve : (db'.resolve insertion).map (Prod.map (Relation.seen k) id) =
      (db.resolve insertion).map (Prod.map (Relation.seen k) id) := by
    rw [← resolve_seen, h, resolve_seen]
  refine (SameOutcome.of_map_eq hresolve).ofExecuted.bind fun q q' hq => ?_
  obtain ⟨relation, targets⟩ := q
  obtain ⟨relation', targets'⟩ := q'
  obtain ⟨hrelation, rfl⟩ := Prod.mk.inj hq
  refine .bind_same fun _ _ => ?_
  dsimp only
  split
  · exact .error _
  · exact .bind_same fun bound _ => (insertInto_of_seen h hrelation _).ofExecuted

end Database

end Raw

namespace Comparison

variable {d : Dialect} {n : Nat} {s s' : Session} {db db' : Database}

theorem Licenses.eq_of_hidden {t t' : LicenseTable} (h : (hidden d).Licenses t t') : t' = t := by
  obtain ⟨dialect, entries⟩ := t
  obtain ⟨hentries, hdialect⟩ := h
  cases hentries
  cases hdialect
  rfl

theorem databases_hidden_iff :
    (hidden d).Databases n db db' ↔ db'.seen .hidden = db.seen .hidden := by
  constructor
  · rintro ⟨hcontent, hlicense, hother, hdraws⟩
    have hcontents : db'.content.map (ContentTable.seen .hidden) =
        db.content.map (ContentTable.seen .hidden) := by
      rcases exists_of_optionRel hcontent with ⟨hdb, hdb'⟩ | ⟨t, t', hdb, hdb', ht⟩
      · rw [hdb, hdb']
      · rw [hdb, hdb']
        exact congrArg some ht
    have hlicenses : db'.license = db.license := by
      rcases exists_of_optionRel hlicense with ⟨hdb, hdb'⟩ | ⟨t, t', hdb, hdb', ht⟩
      · rw [hdb, hdb']
      · rw [hdb, hdb', ht.eq_of_hidden]
    rw [Database.seen, Database.seen, hcontents, hlicenses, hother, hdraws]
  · intro h
    obtain ⟨hcontent, hlicense, hother, hdraws⟩ := Database.fields_of_seen h
    refine ⟨?_, ?_, hother, hdraws⟩
    · cases hdb : db.content with
      | none =>
        rw [hdb] at hcontent
        rw [Option.map_eq_none_iff.1 hcontent]
        exact .none
      | some t =>
        rw [hdb] at hcontent
        obtain ⟨t', hdb', ht⟩ := Option.map_eq_some_iff.1 hcontent
        rw [hdb']
        exact .some ht
    · rw [hlicense]
      cases db.license with
      | none => exact .none
      | some t => exact .some ⟨rfl, rfl⟩

namespace Results

theorem ofExecuted (h : (hidden d).Sessions n s s') {x x' : Executed Database}
    (hx : SameOutcome ((hidden d).Databases n) x x') :
    (hidden d).Results n (s.ofExecuted x) (s'.ofExecuted x') := by
  cases hx with
  | error r => exact ⟨.same _, h⟩
  | ok hdb => exact ⟨.same _, h.withDatabase hdb⟩

theorem prepare (h : (hidden d).Sessions n s s') (f : Fixture) :
    (hidden d).Results n (s.prepare f) (s'.prepare f) := by
  have hdb := h.database
  cases f with
  | legacyContent rows =>
    refine ofExecuted h ?_
    unfold Database.addLegacyContent
    rw [hdb.has, hdb.hasIndex, congrArg Draws.content hdb.draws]
    split
    · exact .error _
    · split
      · exact .error _
      · exact .ok (hdb.putContent rfl)
  | other index =>
    have hadd : SameOutcome ((hidden d).Databases n) s.database.addOther s'.database.addOther := by
      unfold Database.addOther
      rw [hdb.other, congrArg Draws.other hdb.draws]
      split
      · exact .error _
      · exact .ok ⟨hdb.content, hdb.license, rfl, hdb.draws⟩
    unfold Session.prepare
    dsimp only
    generalize s.database.addOther = x, s'.database.addOther = x' at hadd ⊢
    cases hadd with
    | error r => exact ⟨.same _, h⟩
    | @ok db db' hdb =>
      refine ofExecuted (h.withDatabase hdb) ?_
      unfold Database.indexOther
      rw [hdb.other, hdb.has]
      split
      · exact .error _
      · split
        · exact .error _
        · exact .ok ⟨hdb.content, hdb.license, rfl, hdb.draws⟩

theorem insertRaw (h : (hidden d).Sessions n s s') (table : String)
    (values : List (String × Datum)) :
    (hidden d).Results n (s.insertRaw table values) (s'.insertRaw table values) := by
  have hinsert := Database.insertWorded_of_seen (databases_hidden_iff.1 h.database) table values
  unfold Session.insertRaw
  generalize s.database.insertWorded table values = x,
    s'.database.insertWorded table values = x' at hinsert ⊢
  cases hinsert with
  | error f => exact ⟨.same _, h⟩
  | ok hdb => exact ⟨.same _, h.withDatabase (databases_hidden_iff.2 hdb)⟩

theorem columns (h : (hidden d).Sessions n s s') (table : String) :
    (hidden d).Results n (s.step (.columns table)) (s'.step (.columns table)) := by
  have hcolumns : s'.database.columnsWorded table = s.database.columnsWorded table := by
    have hname (name : String) : s'.database.columns name = s.database.columns name := by
      have hseen := databases_hidden_iff.1 h.database
      rw [← Database.columns_seen (k := .hidden) s'.database, hseen, Database.columns_seen]
    simp only [Database.columnsWorded, hname]
  rw [Session.step_eq, Session.step_eq, Session.outcome, Session.outcome, hcolumns]
  exact reading h rfl

end Results

end Comparison

namespace Session

end Session

end RightsStore
