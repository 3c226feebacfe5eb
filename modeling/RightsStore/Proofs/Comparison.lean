import RightsStore.Proofs.Visibility

/-!
Two databases side by side. What the stores read of them, write to them and are refused by them is
the same, as far as it is seen, when their content tables correspond in a way that additions and
changes in place keep.
-/

namespace RightsStore

open Failure (ofExecuted)

/-- Both fail in the same way, or both succeed with results that are related. -/
inductive SameOutcome (R : α → β → Prop) : Except ε α → Except ε β → Prop
  | error (e : ε) : SameOutcome R (.error e) (.error e)
  | ok : R a b → SameOutcome R (.ok a) (.ok b)

namespace SameOutcome

variable {R : α → β → Prop} {S : γ → δ → Prop}

theorem refl (x : Except ε α) : SameOutcome Eq x x := by
  cases x with
  | error e => exact .error e
  | ok a => exact .ok rfl

theorem bind {x : Except ε α} {y : Except ε β} {f : α → Except ε γ} {g : β → Except ε δ}
    (h : SameOutcome R x y) (hf : ∀ a b, R a b → SameOutcome S (f a) (g b)) :
    SameOutcome S (x >>= f) (y >>= g) := by
  cases h with
  | error e => exact .error e
  | ok hab => exact hf _ _ hab

theorem imp {S : α → β → Prop} {x : Except ε α} {y : Except ε β} (h : SameOutcome R x y)
    (hRS : ∀ a b, R a b → S a b) : SameOutcome S x y := by
  cases h with
  | error e => exact .error e
  | ok hab => exact .ok (hRS _ _ hab)

theorem bind_same {x : Except ε α} {f : α → Except ε γ} {g : α → Except ε δ}
    (h : ∀ a, x = .ok a → SameOutcome S (f a) (g a)) : SameOutcome S (x >>= f) (x >>= g) := by
  cases x with
  | error e => exact .error e
  | ok a => exact h a rfl

theorem and_ok {x : Except ε α} {y : Except ε β} (h : SameOutcome R x y) :
    SameOutcome (fun a b => x = .ok a ∧ R a b) x y := by
  cases h with
  | error e => exact .error e
  | ok hab => exact .ok ⟨rfl, hab⟩

theorem ofExecuted {x : Executed α} {y : Executed β} (h : SameOutcome R x y) :
    SameOutcome R (Failure.ofExecuted x) (Failure.ofExecuted y) := by
  cases h with
  | error r => exact .error _
  | ok hab => exact .ok hab

theorem eq {x y : Except ε α} (h : SameOutcome Eq x y) : y = x := by
  cases h with
  | error e => rfl
  | ok hab => rw [hab]

theorem map_eq {f : α → β} {x y : Except ε α} (h : SameOutcome (fun a b => f b = f a) x y) :
    y.map f = x.map f := by
  cases h with
  | error e => rfl
  | ok hab => exact congrArg Except.ok hab

theorem of_map_eq {f : α → β} {x y : Except ε α} (h : y.map f = x.map f) :
    SameOutcome (fun a b => f b = f a) x y := by
  cases x with
  | error e =>
    cases y with
    | error e' =>
      cases h
      exact .error e
    | ok b => cases h
  | ok a =>
    cases y with
    | error e' => cases h
    | ok b => exact .ok (Except.ok.inj h)

end SameOutcome

theorem exists_of_optionRel {R : α → β → Prop} {x : Option α} {y : Option β}
    (h : Option.Rel R x y) :
    x = none ∧ y = none ∨ ∃ a b, x = some a ∧ y = some b ∧ R a b := by
  cases h with
  | none => exact .inl ⟨rfl, rfl⟩
  | some hab => exact .inr ⟨_, _, rfl, rfl, hab⟩

/-- How a session of one dialect is compared with a session of another: what is seen of keys, when
declarations of license tables correspond, and when content tables do that have room for so many
rows more. -/
structure Comparison where
  keys : Keys
  left : Dialect
  right : Dialect
  Declared : Dialect → Dialect → Prop
  declared : Declared left right
  Tables : (room : Nat) → ContentTable → ContentTable → Prop
  hasType : ∀ {n t t'}, Tables n t t' → t'.layout.hasType = t.layout.hasType
  rows : ∀ {n t t'}, Tables n t t' →
    t'.rows.map (ContentRow.seen keys) = t.rows.map (ContentRow.seen keys)
  less : ∀ {n t t'}, Tables (n + 1) t t' → Tables n t t'
  add : ∀ {n t t' r r'}, Tables (n + 1) t t' → r'.seen keys = r.seen keys →
    Tables n { t with entries := t.entries.add r } { t' with entries := t'.entries.add r' }
  replace : ∀ {n t t' r r'}, Tables n t t' → r'.seen keys = r.seen keys →
    Tables n { t with entries := t.entries.map (ContentTable.replaced r) }
      { t' with entries := t'.entries.map (ContentTable.replaced r') }
  created : ∀ n draws, Tables n { layout := .created left, entries := { draws } }
    { layout := .created right, entries := { draws } }
  extended : ∀ {n t t'}, Tables n t t' → t.layout.hasType = false →
    right = left ∧ ∀ c, Tables n (t.extend c) (t'.extend c)

namespace ContentRow

variable {k : Keys} {r r' : ContentRow}

theorem fields_of_seen (h : r'.seen k = r.seen k) :
    r'.id = r.id ∧ r'.key.seen k = r.key.seen k ∧ r'.location = r.location ∧
      r'.length = r.length ∧ r'.sha256 = r.sha256 ∧ r'.mediaType = r.mediaType := by
  simpa only [seen, mk.injEq] using h

theorem seen_convert (h : r'.seen k = r.seen k) (hr : r.key = .null ∨ ∃ b, r.key = .blob b)
    (layout layout' : ContentLayout) : (r'.convert layout').seen k = (r.convert layout).seen k := by
  obtain ⟨hid, hkey, hlocation, hlength, hsha256, htype⟩ := fields_of_seen h
  have hr' : r'.key = .null ∨ ∃ b, r'.key = .blob b := by
    rcases Cell.eq_of_seen hkey with hsame | ⟨b, b', -, hb'⟩
    · rw [hsame]
      exact hr
    · exact .inr ⟨b', hb'⟩
  simp only [seen, convert, Affinity.convert_of_isKey hr, Affinity.convert_of_isKey hr', hid, hkey,
    hlocation, hlength, hsha256, htype]

theorem checkNulls_of_seen (h : r'.seen k = r.seen k) : r'.checkNulls = r.checkNulls := by
  obtain ⟨-, hkey, hlocation, -, -, htype⟩ := fields_of_seen h
  have hrequire : require .content "encryption_key" r'.key =
      require .content "encryption_key" r.key := by
    rcases Cell.eq_of_seen hkey with hsame | ⟨b, b', hb, hb'⟩
    · rw [hsame]
    · rw [hb, hb']
      rfl
  rw [checkNulls, checkNulls, hrequire, hlocation, htype]

theorem any_matches_of_seen {rows rows' : List ContentRow}
    (h : rows'.map (ContentRow.seen k) = rows.map (ContentRow.seen k)) (c : Cell) :
    rows'.any (c.matches ·.id) = rows.any (c.matches ·.id) := by
  have hany (rows : List ContentRow) :
      rows.any (c.matches ·.id) = (rows.map (ContentRow.seen k)).any (c.matches ·.id) := by
    rw [List.any_map]
    rfl
  rw [hany, h, ← hany]

end ContentRow

theorem Content.fields_of_seen {k : Keys} {c c' : Content} (h : c'.seen k = c.seen k) :
    c'.id = c.id ∧ c'.key.seen k = c.key.seen k ∧ c'.location = c.location ∧
      c'.length = c.length ∧ c'.sha256 = c.sha256 ∧ c'.mediaType = c.mediaType := by
  simpa only [seen, mk.injEq] using h

section Binding

variable {k : Keys} {c c' : Content} {key key' : Cell}

theorem Datum.bindKey_of_seen {d d' : Datum} (h : d'.seen k = d.seen k) :
    SameOutcome (fun key key' => key'.seen k = key.seen k) d.bindKey d'.bindKey := by
  rcases Datum.eq_of_seen h with hsame | ⟨b, b', rfl, rfl⟩
  · rw [hsame]
    cases d.bindKey with
    | error f => exact .error f
    | ok key => exact .ok rfl
  · exact .ok (Datum.cell.inj h)

namespace ContentIndex

theorem bindRest_of_seen (h : c'.seen k = c.seen k) (hkey : key'.seen k = key.seen k)
    (position : Nat) :
    SameOutcome (fun r r' => r'.seen k = r.seen k) (bindRest c key position)
      (bindRest c' key' position) := by
  obtain ⟨-, -, hlocation, hlength, hsha256, htype⟩ := Content.fields_of_seen h
  simp only [bindRest, Content.storedType, hlocation, hlength, hsha256, htype]
  refine .bind_same fun location _ => .bind_same fun length _ => .bind_same fun sha256 _ => ?_
  refine .bind_same fun mediaType _ => .ok ?_
  rw [ContentRow.seen, ContentRow.seen, hkey]

theorem bindInsertion_of_seen (h : c'.seen k = c.seen k) (hkey : key'.seen k = key.seen k) :
    SameOutcome (fun r r' => r'.seen k = r.seen k) (bindInsertion c key)
      (bindInsertion c' key') := by
  rw [bindInsertion, bindInsertion, (Content.fields_of_seen h).1]
  refine .bind_same fun id _ => (bindRest_of_seen h hkey 3).bind fun r r' hr => .ok ?_
  simpa only [ContentRow.seen, ContentRow.mk.injEq, true_and] using (ContentRow.fields_of_seen hr).2

theorem bindUpdate_of_seen (h : c'.seen k = c.seen k) (hkey : key'.seen k = key.seen k) :
    SameOutcome (fun r r' => r'.seen k = r.seen k) (bindUpdate c key) (bindUpdate c' key') := by
  rw [bindUpdate, bindUpdate, (Content.fields_of_seen h).1]
  refine (bindRest_of_seen h hkey 2).bind fun r r' hr => .bind_same fun id _ => .ok ?_
  simpa only [ContentRow.seen, ContentRow.mk.injEq, true_and] using (ContentRow.fields_of_seen hr).2

end ContentIndex

end Binding

namespace Comparison

variable {C : Comparison} {n : Nat}

section Contents

variable {t t' : ContentTable} {r r' : ContentRow}

theorem find? (h : C.Tables n t t') (id : Cell) :
    (t'.find? id).map (ContentRow.seen C.keys) = (t.find? id).map (ContentRow.seen C.keys) := by
  have hfind (t : ContentTable) : (t.find? id).map (ContentRow.seen C.keys) =
      (t.rows.map (ContentRow.seen C.keys)).find? ((Affinity.text.convert id).matches ·.id) := by
    rw [List.find?_map]
    rfl
  rw [hfind, hfind, C.rows h]

theorem insert (h : C.Tables (n + 1) t t') (hr : r.key = .null ∨ ∃ b, r.key = .blob b)
    (hseen : r'.seen C.keys = r.seen C.keys) :
    SameOutcome (C.Tables n) (t.insert r) (t'.insert r') := by
  have hconvert := ContentRow.seen_convert hseen hr t.layout t'.layout
  simp only [ContentTable.insert, ContentTable.insertNumbered, askedNumber_null, ok_bind,
    Rows.checkNumber_none, Rows.put_none, ContentRow.checkNulls_of_seen hconvert,
    (ContentRow.fields_of_seen hconvert).1, ContentRow.any_matches_of_seen (C.rows h)]
  refine .bind_same fun _ _ => ?_
  split
  · exact .error _
  · exact .ok (C.add h hconvert)

theorem update (h : C.Tables n t t') (hr : r.key = .null ∨ ∃ b, r.key = .blob b)
    (hseen : r'.seen C.keys = r.seen C.keys) :
    SameOutcome (C.Tables n) (t.update r) (t'.update r') := by
  have hconvert := ContentRow.seen_convert hseen hr t.layout t'.layout
  have hnew := C.replace h hconvert
  have hany : t'.rows.any ((r'.convert t'.layout).id.matches ·.id) =
      t.rows.any ((r.convert t.layout).id.matches ·.id) := by
    rw [(ContentRow.fields_of_seen hconvert).1, ContentRow.any_matches_of_seen (C.rows h)]
  unfold ContentTable.update
  dsimp only
  rw [ContentRow.checkNulls_of_seen hconvert, hany]
  split
  · exact .bind_same fun _ _ => .ok hnew
  · exact .ok hnew

end Contents

structure Licenses (C : Comparison) (t t' : LicenseTable) : Prop where
  entries : t'.entries = t.entries
  declared : C.Declared t.dialect t'.dialect

namespace Licenses

variable {t t' : LicenseTable} {r : LicenseRow}

theorem rows (h : C.Licenses t t') : t'.rows = t.rows := by
  rw [LicenseTable.rows, LicenseTable.rows, h.entries]

theorem find? (h : C.Licenses t t') (id : Cell) : t'.find? id = t.find? id := by
  rw [LicenseTable.find?, LicenseTable.find?, h.rows]

theorem ofContent (h : C.Licenses t t') (contentId : Cell) :
    t'.ofContent contentId = t.ofContent contentId := by
  unfold LicenseTable.ofContent
  rw [h.rows]

theorem byIssued (h : C.Licenses t t') : t'.byIssued = t.byIssued := by
  rw [LicenseTable.byIssued, LicenseTable.byIssued, h.rows]

theorem enter (h : C.Licenses t t') {references references' : Option (List ContentRow)}
    (hreferences : LicenseTable.checkReference references' = LicenseTable.checkReference references) :
    SameOutcome C.Licenses (t.enter references r) (t'.enter references' r) := by
  have hinsert : SameOutcome C.Licenses (t.insert r) (t'.insert r) := by
    unfold LicenseTable.insert LicenseTable.insertNumbered
    rw [h.rows, h.entries]
    refine .bind_same fun number _ => .bind_same fun _ _ => .bind_same fun _ _ => ?_
    split
    · exact .error _
    · exact .ok ⟨rfl, h.declared⟩
  unfold LicenseTable.enter
  rw [hreferences]
  exact hinsert.bind fun t t' ht => .bind_same fun _ _ => .ok ht

theorem modify (h : C.Licenses t t') (merge : (old new : LicenseRow) → LicenseRow)
    (check : LicenseRow → Executed Unit) :
    SameOutcome (fun p p' => C.Licenses p.1 p'.1 ∧ p'.2 = p.2)
      (t.modify r merge check) (t'.modify r merge check) := by
  unfold LicenseTable.modify
  rw [h.rows, h.entries]
  dsimp only
  split
  · exact .ok ⟨h, rfl⟩
  · exact .bind_same fun _ _ => .ok ⟨⟨rfl, h.declared⟩, rfl⟩

end Licenses

structure Databases (C : Comparison) (n : Nat) (db db' : Database) : Prop where
  content : Option.Rel (C.Tables n) db.content db'.content
  license : Option.Rel C.Licenses db.license db'.license
  other : db'.other = db.other
  draws : db'.draws = db.draws

namespace Databases

variable {db db' : Database}

theorem less (h : C.Databases (n + 1) db db') : C.Databases n db db' := by
  refine ⟨?_, h.license, h.other, h.draws⟩
  rcases exists_of_optionRel h.content with ⟨hdb, hdb'⟩ | ⟨t, t', hdb, hdb', ht⟩
  · rw [hdb, hdb']
    exact .none
  · rw [hdb, hdb']
    exact .some (C.less ht)

theorem putContent (h : C.Databases m db db') {t t' : ContentTable} (ht : C.Tables n t t') :
    C.Databases n { db with content := some t } { db' with content := some t' } :=
  ⟨.some ht, h.license, h.other, h.draws⟩

theorem putLicense (h : C.Databases n db db') {t t' : LicenseTable} (ht : C.Licenses t t') :
    C.Databases n { db with license := some t } { db' with license := some t' } :=
  ⟨h.content, .some ht, h.other, h.draws⟩

theorem contentTable (h : C.Databases n db db') (missing : Refusal) :
    SameOutcome (C.Tables n) (ContentIndex.table db missing) (ContentIndex.table db' missing) := by
  unfold ContentIndex.table
  rcases exists_of_optionRel h.content with ⟨hdb, hdb'⟩ | ⟨t, t', hdb, hdb', ht⟩
  · rw [hdb, hdb']
    exact .error _
  · simp only [hdb, hdb', C.hasType ht]
    split
    · exact .ok ht
    · exact .error _

theorem licenseTable (h : C.Databases n db db') :
    SameOutcome C.Licenses (LicenseStore.table db) (LicenseStore.table db') := by
  unfold LicenseStore.table
  rcases exists_of_optionRel h.license with ⟨hdb, hdb'⟩ | ⟨t, t', hdb, hdb', ht⟩
  · rw [hdb, hdb']
    exact .error _
  · rw [hdb, hdb']
    exact .ok ht

theorem isSome_content (h : C.Databases n db db') : db'.content.isSome = db.content.isSome := by
  rcases exists_of_optionRel h.content with ⟨hdb, hdb'⟩ | ⟨t, t', hdb, hdb', -⟩
  · rw [hdb, hdb']
  · rw [hdb, hdb']
    rfl

theorem isSome_license (h : C.Databases n db db') : db'.license.isSome = db.license.isSome := by
  rcases exists_of_optionRel h.license with ⟨hdb, hdb'⟩ | ⟨t, t', hdb, hdb', -⟩
  · rw [hdb, hdb']
  · rw [hdb, hdb']
    rfl

theorem has (h : C.Databases n db db') (t : Table) : db'.has t = db.has t := by
  cases t with
  | content => exact h.isSome_content
  | license => exact h.isSome_license

theorem hasIndex (h : C.Databases n db db') (t : Table) : db'.hasIndex t = db.hasIndex t := by
  rw [Database.hasIndex, Database.hasIndex, h.other]

theorem tableNames (h : C.Databases n db db') : db'.tableNames = db.tableNames := by
  rw [Database.tableNames, Database.tableNames, h.isSome_content, h.isSome_license, h.other]

section Contents

variable {c c' : Content}

theorem findContent (h : C.Databases n db db') (id : Datum) :
    SameOutcome (fun r r' => r'.map (ContentRow.seen C.keys) = r.map (ContentRow.seen C.keys))
      (ContentIndex.find db id) (ContentIndex.find db' id) :=
  (h.contentTable _).bind fun _ _ ht => .bind_same fun id _ => .ok (find? ht id)

theorem getContent (h : C.Databases n db db') (id : Datum) :
    (ContentIndex.get db' id).map (Content.seen C.keys) =
      (ContentIndex.get db id).map (Content.seen C.keys) := by
  refine ((h.findContent id).bind fun r r' hr => ?_).map_eq
  cases r with
  | none =>
    rw [Option.map_eq_none_iff.1 hr]
    exact .error _
  | some r =>
    obtain ⟨r', rfl, hseen⟩ := Option.map_eq_some_iff.1 hr
    exact .of_map_eq (ContentRow.read_of_seen hseen)

theorem listContents (h : C.Databases n db db') :
    SameOutcome (fun rows rows' => rows'.map (ContentRow.seen C.keys) =
      rows.map (ContentRow.seen C.keys)) (ContentIndex.list db) (ContentIndex.list db') :=
  (h.contentTable _).bind fun _ _ ht => .ok (C.rows ht)

theorem addContent (h : C.Databases (n + 1) db db') (hseen : c'.seen C.keys = c.seen C.keys) :
    SameOutcome (C.Databases n) (ContentIndex.add db c) (ContentIndex.add db' c') := by
  rw [ContentIndex.add_eq, ContentIndex.add_eq]
  have hkeys := Datum.bindKey_of_seen (Content.fields_of_seen hseen).2.1
  refine hkeys.and_ok.bind fun key key' hkey => (h.contentTable _).bind fun t t' ht => ?_
  have hrows := ContentIndex.bindInsertion_of_seen hseen hkey.2
  refine hrows.and_ok.bind fun r r' hr => ?_
  have hbinds := ContentIndex.binds_of_bindInsertion hkey.1 hr.1
  refine (insert ht (Datum.bindKey_eq_ok hbinds.key).2 hr.2).ofExecuted.bind fun t t' ht => ?_
  exact .ok (h.putContent ht)

theorem updateContent (h : C.Databases n db db') (hseen : c'.seen C.keys = c.seen C.keys) :
    SameOutcome (C.Databases n) (ContentIndex.update db c) (ContentIndex.update db' c') := by
  rw [ContentIndex.update_eq, ContentIndex.update_eq]
  have hkeys := Datum.bindKey_of_seen (Content.fields_of_seen hseen).2.1
  refine hkeys.and_ok.bind fun key key' hkey => (h.contentTable _).bind fun t t' ht => ?_
  have hrows := ContentIndex.bindUpdate_of_seen hseen hkey.2
  refine hrows.and_ok.bind fun r r' hr => ?_
  have hbinds := ContentIndex.binds_of_bindUpdate hkey.1 hr.1
  refine (update ht (Datum.bindKey_eq_ok hbinds.key).2 hr.2).ofExecuted.bind fun t t' ht => ?_
  exact .ok (h.putContent ht)

end Contents

theorem checkParent (h : C.Databases n db db') (enforce : Bool) :
    LicenseStore.checkParent enforce db' = LicenseStore.checkParent enforce db := by
  have hnone : db'.content.isNone = db.content.isNone := by
    rw [← Option.not_isSome, ← Option.not_isSome, h.isSome_content]
  rw [LicenseStore.checkParent, LicenseStore.checkParent, hnone]

theorem checkReference (h : C.Databases n db db') (enforce : Bool) :
    LicenseTable.checkReference (LicenseStore.references enforce db') =
      LicenseTable.checkReference (LicenseStore.references enforce db) := by
  cases enforce with
  | false => rfl
  | true =>
    have hany (c : Cell) : db'.contentRows.any (c.matches ·.id) =
        db.contentRows.any (c.matches ·.id) := by
      unfold Database.contentRows
      rcases exists_of_optionRel h.content with ⟨hdb, hdb'⟩ | ⟨t, t', hdb, hdb', ht⟩
      · rw [hdb, hdb']
      · rw [hdb, hdb']
        exact ContentRow.any_matches_of_seen (C.rows ht) c
    funext r
    simp only [LicenseTable.checkReference, LicenseStore.references, if_true, hany]

theorem getLicense (h : C.Databases n db db') (id : Datum) :
    LicenseStore.get db' id = LicenseStore.get db id := by
  have hfind : LicenseStore.find db' id = LicenseStore.find db id := by
    refine (h.licenseTable.bind fun t t' ht => .bind_same fun c _ => ?_).eq
    rw [ht.find?]
    exact .refl _
  rw [LicenseStore.get, LicenseStore.get, hfind]

theorem listLicenses (h : C.Databases n db db') (contentId size number : Datum) :
    LicenseStore.list db' contentId size number = LicenseStore.list db contentId size number := by
  unfold LicenseStore.list
  refine (SameOutcome.bind_same fun page _ => h.licenseTable.bind fun t t' ht => ?_).eq
  simp only [ht.ofContent]
  exact .refl _

theorem listAllLicenses (h : C.Databases n db db') (size number : Datum) :
    LicenseStore.listAll db' size number = LicenseStore.listAll db size number := by
  unfold LicenseStore.listAll
  refine (SameOutcome.bind_same fun page _ => h.licenseTable.bind fun t t' ht => ?_).eq
  rw [ht.byIssued]
  exact .refl _

theorem addLicense (h : C.Databases n db db') (enforce : Bool) (l : License) :
    SameOutcome (C.Databases n) (LicenseStore.add enforce db l)
      (LicenseStore.add enforce db' l) := by
  rw [LicenseStore.add_eq, LicenseStore.add_eq]
  rw [h.checkParent]
  cases l.user with
  | none => exact .error _
  | some user =>
    refine .bind_same fun issued _ => .bind_same fun w _ => h.licenseTable.bind fun t t' ht => ?_
    refine .bind_same fun _ _ => .bind_same fun id _ => .bind_same fun userId _ => ?_
    refine .bind_same fun provider _ => .bind_same fun print _ => .bind_same fun copy _ => ?_
    refine .bind_same fun contentId _ => .bind_same fun status _ => ?_
    refine (ht.enter (h.checkReference enforce)).ofExecuted.bind fun t t' ht => ?_
    exact .ok (h.putLicense ht)

theorem updateLicense (h : C.Databases n db db') (enforce : Bool) (l : License) (clock : Moment) :
    SameOutcome (C.Databases n) (LicenseStore.update enforce db l clock)
      (LicenseStore.update enforce db' l clock) := by
  rw [LicenseStore.update_eq, LicenseStore.update_eq]
  rw [h.checkParent, h.checkReference]
  cases l.user with
  | none => exact .error _
  | some user =>
    refine .bind_same fun now _ => .bind_same fun updated _ => .bind_same fun w _ => ?_
    refine h.licenseTable.bind fun t t' ht => .bind_same fun _ _ => ?_
    refine .bind_same fun userId _ => .bind_same fun provider _ => .bind_same fun print _ => ?_
    refine .bind_same fun copy _ => .bind_same fun contentId _ => .bind_same fun id _ => ?_
    exact (ht.modify _ _).ofExecuted.bind fun p p' hp => .ok (h.putLicense hp.1)

theorem updateRights (h : C.Databases n db db') (l : License) (clock : Moment) :
    SameOutcome (fun p p' => C.Databases n p.1 p'.1 ∧ p'.2 = p.2)
      (LicenseStore.updateRights db l clock) (LicenseStore.updateRights db' l clock) := by
  rw [LicenseStore.updateRights_eq, LicenseStore.updateRights_eq]
  refine .bind_same fun now _ => .bind_same fun updated _ => .bind_same fun w _ => ?_
  refine h.licenseTable.bind fun t t' ht => ?_
  refine .bind_same fun print _ => .bind_same fun copy _ => .bind_same fun id _ => ?_
  exact (ht.modify _ _).ofExecuted.bind fun p p' hp => .ok ⟨h.putLicense hp.1, hp.2⟩

theorem setStatus (h : C.Databases n db db') (id status : Datum) :
    SameOutcome (C.Databases n) (LicenseStore.setStatus db id status)
      (LicenseStore.setStatus db' id status) := by
  rw [LicenseStore.setStatus_eq, LicenseStore.setStatus_eq]
  refine h.licenseTable.bind fun t t' ht => .bind_same fun status _ => .bind_same fun id _ => ?_
  exact (ht.modify _ _).ofExecuted.bind fun p p' hp => .ok (h.putLicense hp.1)

section Openings

theorem create (h : C.Databases n db db') (t : Table) :
    SameOutcome (C.Databases n) (db.create C.left t) (db'.create C.right t) := by
  unfold Database.create
  rw [h.has, h.hasIndex]
  split
  · exact .ok h
  · split
    · exact .error _
    · cases t with
      | content =>
        have hdraws : db'.draws.content = db.draws.content := congrArg Draws.content h.draws
        dsimp only
        rw [hdraws]
        exact .ok (h.putContent (C.created n _))
      | license =>
        have hdraws : db'.draws.license = db.draws.license := congrArg Draws.license h.draws
        dsimp only
        rw [hdraws]
        exact .ok (h.putLicense ⟨rfl, C.declared⟩)

theorem addColumn (h : C.Databases n db db') (c : Column) :
    SameOutcome (C.Databases n) (db.addColumn c) (db'.addColumn c) := by
  unfold Database.addColumn
  rcases exists_of_optionRel h.content with ⟨hdb, hdb'⟩ | ⟨t, t', hdb, hdb', ht⟩
  · rw [hdb, hdb']
    exact .error _
  · simp only [hdb, hdb', C.hasType ht]
    split
    · exact .error _
    · rename_i hlegacy
      exact .ok (h.putContent ((C.extended ht (Bool.not_eq_true _ ▸ hlegacy)).2 c))

theorem migrateAll (h : C.Databases n db db') (ms : List Migration) :
    (Opening.migrateAll db' ms).2 = (Opening.migrateAll db ms).2 ∧
      C.Databases n (Opening.migrateAll db ms).1 (Opening.migrateAll db' ms).1 := by
  induction ms generalizing db db' with
  | nil => exact ⟨rfl, h⟩
  | cons m ms ih =>
    have hmigrate : (Opening.migrate db' m).2 = (Opening.migrate db m).2 ∧
        C.Databases n (Opening.migrate db m).1 (Opening.migrate db' m).1 := by
      have hcolumn := h.addColumn m.column
      unfold Opening.migrate
      generalize db.addColumn m.column = x, db'.addColumn m.column = y at hcolumn ⊢
      cases hcolumn with
      | error r => exact ⟨rfl, h⟩
      | ok hnew => exact ⟨rfl, hnew⟩
    obtain ⟨hevent, hfirst⟩ := hmigrate
    obtain ⟨hevents, hrest⟩ := ih hfirst
    simp only [Opening.migrateAll]
    exact ⟨by rw [hevent, hevents], hrest⟩

theorem migrateAll_of_ne (h : C.Databases n db db') (hne : C.right ≠ C.left)
    (ms ms' : List Migration) :
    C.Databases n (Opening.migrateAll db ms).1 (Opening.migrateAll db' ms').1 := by
  have htypes : db.HasType ∧ db'.HasType := by
    rcases exists_of_optionRel h.content with ⟨hdb, hdb'⟩ | ⟨t, t', hdb, hdb', ht⟩
    · rw [Database.HasType, Database.HasType, hdb, hdb']
      exact ⟨nofun, nofun⟩
    · have htype : t.layout.hasType = true := by
        by_contra hlegacy
        rw [Bool.not_eq_true] at hlegacy
        exact hne (C.extended ht hlegacy).1
      have htype' : t'.layout.hasType = true := (C.hasType ht).trans htype
      rw [Database.HasType, Database.HasType, hdb, hdb']
      refine ⟨?_, ?_⟩
      · rintro _ ⟨⟩
        exact htype
      · rintro _ ⟨⟩
        exact htype'
  rw [Database.migrateAll_of_refused (Database.addColumn_of_hasType htypes.1),
    Database.migrateAll_of_refused (Database.addColumn_of_hasType htypes.2)]
  exact h

theorem opened (h : C.Databases n db db') (t : Table) :
    (db'.open C.right t).refusal = (db.open C.left t).refusal ∧
      (C.right = C.left → (db'.open C.right t).log = (db.open C.left t).log) ∧
      C.Databases n (db.open C.left t).database (db'.open C.right t).database := by
  have hcreate := h.create t
  unfold Database.open
  generalize db.create C.left t = x, db'.create C.right t = y at hcreate ⊢
  cases hcreate with
  | error r => exact ⟨rfl, fun _ => rfl, h⟩
  | @ok new new' hnew =>
    refine ⟨rfl, ?_, ?_⟩
    · intro hsame
      rw [hsame]
      exact congrArg (· ++ Opening.prepared C.left t) (hnew.migrateAll _).1
    · by_cases hsame : C.right = C.left
      · rw [hsame]
        exact (hnew.migrateAll _).2
      · exact hnew.migrateAll_of_ne hsame _ _

end Openings

end Databases

end Comparison

end RightsStore
