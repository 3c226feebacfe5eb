import RightsStore.Proofs.Stores

/-!
Opening stores again: whatever has been opened before, and in whatever order, each store is opened
or refused as at first, and the tables are those that one opening of each leaves.
-/

namespace RightsStore

def ContentTable.Widens (t t' : ContentTable) : Prop :=
  t' = t ∨ ∃ c, t' = t.extend c ∧ t'.layout.columns = t.layout.columns ++ [c]

namespace Database

variable {db : Database} {d : Dialect}

def obstacle? (db : Database) (t : Table) : Option Refusal :=
  if !db.has t && db.hasIndex t then some (.indexInTheWay t) else none

def tableAfter (d : Dialect) (t : ContentTable) : ContentTable :=
  match t.layout, d.contentMigrations with
  | .legacy, m :: _ => t.extend m.column
  | _, _ => t

def contentAfter (db : Database) (d : Dialect) : Option ContentTable :=
  match db.content with
  | some t => some (tableAfter d t)
  | none =>
    if db.hasIndex .content then none
    else some { layout := .created d, entries := { draws := db.draws.content } }

def licenseAfter (db : Database) (d : Dialect) : Option LicenseTable :=
  match db.license with
  | some t => some t
  | none =>
    if db.hasIndex .license then none
    else some { dialect := d, entries := { draws := db.draws.license } }

section Create

variable {t : Table}

theorem create_of_has (h : db.has t = true) (d : Dialect) : db.create d t = .ok db := by
  unfold create
  rw [h, if_pos rfl]

theorem create_of_hasIndex (h : db.has t = false) (hindex : db.hasIndex t = true) (d : Dialect) :
    db.create d t = .error (.indexInTheWay t) := by
  unfold create
  rw [h, hindex]
  rfl

theorem create_content (h : db.has .content = false) (hindex : db.hasIndex .content = false)
    (d : Dialect) : db.create d .content = .ok { db with
      content := some { layout := .created d, entries := { draws := db.draws.content } } } := by
  rw [create, h, hindex]
  rfl

theorem create_license (h : db.has .license = false) (hindex : db.hasIndex .license = false)
    (d : Dialect) : db.create d .license = .ok { db with
      license := some { dialect := d, entries := { draws := db.draws.license } } } := by
  rw [create, h, hindex]
  rfl

end Create

theorem refusal_open (db : Database) (d : Dialect) (t : Table) :
    (db.open d t).refusal = db.obstacle? t := by
  unfold Database.open obstacle?
  cases hhas : db.has t with
  | true =>
    rw [create_of_has hhas]
    rfl
  | false =>
    cases hindex : db.hasIndex t with
    | true =>
      rw [create_of_hasIndex hhas hindex]
      rfl
    | false =>
      cases t with
      | content =>
        rw [create_content hhas hindex]
        rfl
      | license =>
        rw [create_license hhas hindex]
        rfl

theorem migrateAll_content {t : ContentTable} (ht : db.content = some t) (d : Dialect) :
    (Opening.migrateAll db d.contentMigrations).1 =
      { db with content := some (tableAfter d t) } := by
  obtain ⟨content, license, other, draws⟩ := db
  obtain ⟨layout, entries⟩ := t
  cases ht
  cases d <;> cases layout <;> rfl

theorem open_content (db : Database) (d : Dialect) :
    (db.open d .content).database = { db with content := db.contentAfter d } := by
  obtain ⟨content, license, other, draws⟩ := db
  unfold Database.open contentAfter
  cases content with
  | some t =>
    rw [create_of_has rfl]
    exact migrateAll_content (t := t) rfl d
  | none =>
    cases hindex : hasIndex ⟨none, license, other, draws⟩ .content with
    | true =>
      rw [create_of_hasIndex rfl hindex]
      rfl
    | false =>
      rw [create_content rfl hindex]
      exact migrateAll_content (t := { layout := .created d, entries := { draws := draws.content } })
        rfl d

theorem open_license (db : Database) (d : Dialect) :
    (db.open d .license).database = { db with license := db.licenseAfter d } := by
  obtain ⟨content, license, other, draws⟩ := db
  unfold Database.open licenseAfter
  cases license with
  | some t =>
    rw [create_of_has rfl]
    rfl
  | none =>
    cases hindex : hasIndex ⟨content, none, other, draws⟩ .license with
    | true =>
      rw [create_of_hasIndex rfl hindex]
      rfl
    | false =>
      rw [create_license rfl hindex]
      rfl

@[simp] theorem tableAfter_tableAfter (d : Dialect) (t : ContentTable) :
    tableAfter d (tableAfter d t) = tableAfter d t := by
  obtain ⟨layout, entries⟩ := t
  cases d <;> cases layout <;> rfl

theorem contentAfter_contentAfter (db : Database) (d : Dialect) :
    contentAfter { db with content := db.contentAfter d } d = db.contentAfter d := by
  cases hcontent : db.content with
  | some t =>
    have hsome : db.contentAfter d = some (tableAfter d t) := by rw [contentAfter, hcontent]
    rw [hsome]
    exact congrArg some (tableAfter_tableAfter d t)
  | none =>
    cases hindex : db.hasIndex .content with
    | true =>
      have hnone : db.contentAfter d = none := by rw [contentAfter, hcontent, hindex, if_pos rfl]
      rw [hnone]
      exact if_pos hindex
    | false =>
      have hsome : db.contentAfter d =
          some { layout := .created d, entries := { draws := db.draws.content } } := by
        rw [contentAfter, hcontent, hindex]
        rfl
      rw [hsome]
      rfl

theorem licenseAfter_licenseAfter (db : Database) (d : Dialect) :
    licenseAfter { db with license := db.licenseAfter d } d = db.licenseAfter d := by
  cases hlicense : db.license with
  | some t =>
    have hsome : db.licenseAfter d = some t := by rw [licenseAfter, hlicense]
    rw [hsome]
    rfl
  | none =>
    cases hindex : db.hasIndex .license with
    | true =>
      have hnone : db.licenseAfter d = none := by rw [licenseAfter, hlicense, hindex, if_pos rfl]
      rw [hnone]
      exact if_pos hindex
    | false =>
      have hsome : db.licenseAfter d =
          some { dialect := d, entries := { draws := db.draws.license } } := by
        rw [licenseAfter, hlicense, hindex]
        rfl
      rw [hsome]
      rfl

theorem openAll_eq (db : Database) (d : Dialect) (ts : List Table) :
    db.openAll d ts = { db with
      content := if .content ∈ ts then db.contentAfter d else db.content
      license := if .license ∈ ts then db.licenseAfter d else db.license } := by
  induction ts generalizing db with
  | nil => rfl
  | cons t ts ih =>
    have hfirst : db.openAll d (t :: ts) = (db.open d t).database.openAll d ts := rfl
    have hlicense (content : Option ContentTable) :
        licenseAfter { db with content } d = db.licenseAfter d := rfl
    have hcontent (license : Option LicenseTable) :
        contentAfter { db with license } d = db.contentAfter d := rfl
    rw [hfirst, ih]
    cases t with
    | content =>
      simp only [open_content, contentAfter_contentAfter, hlicense, ite_self, List.mem_cons,
        true_or, if_true, reduceCtorEq, false_or]
    | license =>
      simp only [open_license, licenseAfter_licenseAfter, hcontent, ite_self, List.mem_cons,
        true_or, if_true, reduceCtorEq, false_or]

theorem openAll_congr {ts ts' : List Table} (h : ∀ t, t ∈ ts ↔ t ∈ ts') (db : Database)
    (d : Dialect) : db.openAll d ts = db.openAll d ts' := by
  simp only [openAll_eq, h]

theorem obstacle?_open_self (db : Database) (d : Dialect) (t : Table) :
    (db.open d t).database.obstacle? t = db.obstacle? t := by
  cases hrefusal : (db.open d t).refusal with
  | some r => rw [(open_of_refusal hrefusal).1]
  | none =>
    rw [← refusal_open db d, hrefusal, obstacle?, has_open_of_not_refused hrefusal]
    rfl

theorem obstacle?_open (db : Database) (d : Dialect) (t u : Table) :
    (db.open d t).database.obstacle? u = db.obstacle? u := by
  cases t with
  | content =>
    cases u with
    | content => exact obstacle?_open_self db d .content
    | license =>
      rw [open_content]
      rfl
  | license =>
    cases u with
    | content =>
      rw [open_license]
      rfl
    | license => exact obstacle?_open_self db d .license

theorem obstacle?_openAll (db : Database) (d : Dialect) (ts : List Table) (u : Table) :
    (db.openAll d ts).obstacle? u = db.obstacle? u := by
  induction ts generalizing db with
  | nil => rfl
  | cons t ts ih => exact (ih _).trans (obstacle?_open db d t u)

structure Widens (db db' : Database) : Prop where
  content : ∀ t, db.content = some t → ∃ t', db'.content = some t' ∧ t.Widens t'
  license : ∀ t, db.license = some t → db'.license = some t
  other : db'.other = db.other

end Database

def Wiring.built : Wiring → Table → Bool
  | .separate _, _ => false
  | .container index _, .content => index
  | .container _ licenses, .license => licenses

theorem Wiring.built_of_isFresh {w : Wiring} (h : w.isFresh = true) (t : Table) :
    w.built t = false := by
  cases w with
  | separate b => rfl
  | container index licenses =>
    simp only [isFresh, Bool.and_eq_true, Bool.not_eq_true'] at h
    obtain ⟨rfl, rfl⟩ := h
    cases t <;> rfl

inductive Wiring.SameKind : Wiring → Wiring → Prop
  | separate (enforce : Bool) : SameKind (.separate enforce) (.separate enforce)
  | container : SameKind (.container index licenses) (.container index' licenses')

theorem Wiring.SameKind.refl (w : Wiring) : w.SameKind w := by
  cases w with
  | separate enforce => exact .separate enforce
  | container index licenses => exact .container

theorem Wiring.SameKind.container_of {w : Wiring} (h : w.SameKind (.container index licenses)) :
    w.SameKind (.container index' licenses') := by
  cases h
  exact .container

namespace Session

variable {s s' : Session} {us us' : List Table} {t : Table}

def answerUnless (obstacle : Option Refusal) (a : Answer) : Except Failure Answer :=
  match obstacle with
  | some r => .error (.refused r)
  | none => .ok a

theorem openTable_fst (s : Session) (t : Table) :
    (s.openTable t).1 =
      ⟨answerUnless (s.database.obstacle? t) .done, (s.database.open s.dialect t).log⟩ := by
  rw [openTable_eq, opening, ← s.database.refusal_open s.dialect t]
  cases (s.database.open s.dialect t).refusal <;> rfl

theorem hand_fst (t : Table) (x : Reply × Session) : (hand t x).1 = x.1 := by
  unfold hand
  split
  · rfl
  · split <;> rfl

theorem handedOut_eq {n : Nat} (h : s.counts.of t = n) : s.handedOut t = .ok (.opened t n) := by
  rw [handedOut, h]

theorem wiring_containerIndex {licenses : Bool} {a : Answer}
    (h : (s.containerIndex licenses).1.answer = .ok a) :
    (s.containerIndex licenses).2.wiring = .container true licenses := by
  unfold containerIndex at h ⊢
  dsimp only at h ⊢
  split at h
  · rfl
  · cases h

/-- A session in which these tables have been opened, once or more often. A container has made each
store once, and keeps those whose tables were not in the way. -/
structure Reopened (s : Session) (us : List Table) (s' : Session) : Prop where
  dialect : s'.dialect = s.dialect
  database : s'.database = s.database.openAll s.dialect us
  wiring : s.wiring.SameKind s'.wiring
  kept : ∀ t, s'.wiring.keeps t = true → t ∈ us ∧ s.database.obstacle? t = none
  counts : ∀ t, s'.counts.of t = s.counts.of t + if s'.wiring.built t then 1 else 0

namespace Reopened

theorem start (hw : s.wiring.isFresh = true) : s.Reopened [] s := by
  refine ⟨rfl, rfl, .refl _, ?_, ?_⟩
  · intro t ht
    rw [Wiring.keeps_of_isFresh hw] at ht
    cases ht
  · intro t
    rw [Wiring.built_of_isFresh hw]
    rfl

theorem congr (h : s.Reopened us s') (hus : ∀ t, t ∈ us ↔ t ∈ us') : s.Reopened us' s' :=
  ⟨h.dialect, h.database.trans (Database.openAll_congr hus ..), h.wiring,
    fun t ht => ⟨(hus t).1 (h.kept t ht).1, (h.kept t ht).2⟩, h.counts⟩

theorem obstacle? (h : s.Reopened us s') (t : Table) :
    s'.database.obstacle? t = s.database.obstacle? t := by
  rw [h.database, Database.obstacle?_openAll]

theorem hand {x : Reply × Session} (h : s.Reopened us x.2) (t : Table) :
    s.Reopened us (hand t x).2 := by
  unfold Session.hand
  split
  · exact h
  · split <;> exact ⟨h.dialect, h.database, h.wiring, h.kept, h.counts⟩

theorem openTable (h : s.Reopened us s') (t : Table) :
    (s'.openTable t).1.answer = answerUnless (s.database.obstacle? t) .done ∧
      s.Reopened (us ++ [t]) (s'.openTable t).2 := by
  rw [openTable_fst, openTable_snd, h.obstacle?]
  refine ⟨rfl, h.dialect, ?_, h.wiring, ?_, h.counts⟩
  · rw [Database.openAll_append, ← h.database, ← h.dialect]
    rfl
  · intro u hu
    obtain ⟨hmem, hnone⟩ := h.kept u hu
    exact ⟨List.mem_append_left _ hmem, hnone⟩

theorem containerIndex {licenses : Bool} (h : s.Reopened us s')
    (hw : s'.wiring = .container false licenses) :
    (s'.containerIndex licenses).1.answer =
        answerUnless (s.database.obstacle? .content) (.opened .content (s.counts.index + 1)) ∧
      s.Reopened (us ++ [.content]) (s'.containerIndex licenses).2 := by
  obtain ⟨hanswer, hopened⟩ := h.openTable .content
  have hkept (t : Table) (ht : (Wiring.container false licenses).keeps t = true) :
      t ∈ us ∧ s.database.obstacle? t = none := h.kept t (hw ▸ ht)
  have hwiring : (s'.openTable .content).2.wiring = .container false licenses := by
    rw [openTable_snd]
    exact hw
  unfold Session.containerIndex
  generalize s'.openTable .content = x at hanswer hopened hwiring ⊢
  obtain ⟨⟨answer, log⟩, s''⟩ := x
  cases hanswer
  dsimp only at hopened hwiring ⊢
  cases hobstacle : s.database.obstacle? .content with
  | some r => exact ⟨rfl, hopened⟩
  | none =>
    have hcounts := hopened.counts
    rw [hwiring] at hcounts
    have hindex : s''.counts.index = s.counts.index := hcounts .content
    refine ⟨?_, hopened.dialect, hopened.database, (hw ▸ h.wiring).container_of, ?_, ?_⟩
    · exact handedOut_eq (congrArg (· + 1) hindex)
    · intro t ht
      cases t with
      | content => exact ⟨List.mem_append_right _ List.mem_cons_self, hobstacle⟩
      | license => exact ⟨List.mem_append_left _ (hkept .license ht).1, (hkept .license ht).2⟩
    · intro t
      cases t with
      | content => exact congrArg (· + 1) hindex
      | license => exact hcounts .license

theorem again (h : s.Reopened us s') (ht : t ∈ us) : s.Reopened (us ++ [t]) s' := by
  refine h.congr fun u => ?_
  rw [List.mem_append, List.mem_singleton]
  constructor
  · exact .inl
  · rintro (hu | rfl)
    · exact hu
    · exact ht

theorem containerLicenses {index : Bool} (h : s.Reopened us s')
    (hw : s'.wiring = .container index false) :
    (s'.containerLicenses index).1.answer =
        answerUnless ((s.database.obstacle? .content).or (s.database.obstacle? .license))
          (.opened .license (s.counts.licenses + 1)) ∧
      s.Reopened (us ++ if (s.database.obstacle? .content).isSome then [.content]
        else [.content, .license]) (s'.containerLicenses index).2 := by
  have hfirst : let x := if index then (⟨s'.handedOut .content, []⟩, s') else s'.containerIndex false
      x.1.answer =
          answerUnless (s.database.obstacle? .content) (.opened .content (s.counts.index + 1)) ∧
        s.Reopened (us ++ [.content]) x.2 ∧
          (s.database.obstacle? .content = none → x.2.wiring = .container true false) := by
    cases index with
    | true =>
      obtain ⟨hmem, hnone⟩ := h.kept .content (by rw [hw]; rfl)
      have hcounts := h.counts .content
      rw [hw] at hcounts
      rw [hnone]
      exact ⟨handedOut_eq hcounts, h.again hmem,
        fun _ => hw⟩
    | false =>
      obtain ⟨hanswer, hopened⟩ := h.containerIndex hw
      refine ⟨hanswer, hopened, ?_⟩
      intro hnone
      rw [hnone] at hanswer
      exact wiring_containerIndex hanswer
  unfold Session.containerLicenses
  generalize (if index then (⟨s'.handedOut .content, []⟩, s') else s'.containerIndex false) = x
    at hfirst ⊢
  obtain ⟨⟨answer, log⟩, s''⟩ := x
  obtain ⟨hanswer, hopened, hbuilt⟩ := hfirst
  cases hanswer
  dsimp only at hopened hbuilt ⊢
  cases hcontent : s.database.obstacle? .content with
  | some r => exact ⟨rfl, hopened⟩
  | none =>
    obtain ⟨hanswer, hboth⟩ := hopened.openTable .license
    have hwiring : (s''.openTable .license).2.wiring = .container true false := by
      rw [openTable_snd]
      exact hbuilt hcontent
    rw [List.append_assoc] at hboth
    dsimp only [answerUnless]
    generalize s''.openTable .license = y at hanswer hboth hwiring ⊢
    obtain ⟨⟨answer, log'⟩, s₃⟩ := y
    cases hanswer
    dsimp only at hboth hwiring ⊢
    cases hlicense : s.database.obstacle? .license with
    | some r => exact ⟨rfl, hboth⟩
    | none =>
      have hcounts := hboth.counts
      rw [hwiring] at hcounts
      have hlicenses : s₃.counts.licenses = s.counts.licenses := hcounts .license
      refine ⟨?_, hboth.dialect, hboth.database, (hw ▸ h.wiring).container_of, ?_, ?_⟩
      · exact handedOut_eq (congrArg (· + 1) hlicenses)
      · intro t _
        cases t with
        | content => exact ⟨List.mem_append_right _ List.mem_cons_self, hcontent⟩
        | license => exact ⟨List.mem_append_right _ (by decide), hlicense⟩
      · intro t
        cases t with
        | content => exact hcounts .content
        | license => exact congrArg (· + 1) hlicenses

end Reopened

/-- The tables that are opened when a store is asked for: a container opens the index first. -/
def asked (s : Session) : Table → List Table
  | .content => [.content]
  | .license =>
    match s.wiring with
    | .separate _ => [.license]
    | .container .. =>
      if (s.database.obstacle? .content).isSome then [.content] else [.content, .license]

def openingAnswer (s : Session) (t : Table) : Except Failure Answer :=
  match s.wiring with
  | .separate _ => answerUnless (s.database.obstacle? t) .done
  | .container .. =>
    answerUnless ((s.database.obstacle? .content).or (s.database.obstacle? t))
      (.opened t (s.counts.of t + 1))

theorem Reopened.step (h : s.Reopened us s') (t : Table) :
    (s'.step (.openStore t)).1.answer = s.openingAnswer t ∧
      s.Reopened (us ++ s.asked t) (s'.step (.openStore t)).2 := by
  have handed {x : Reply × Session}
      (hx : x.1.answer = s.openingAnswer t ∧ s.Reopened (us ++ s.asked t) x.2) :
      (Session.hand t x).1.answer = s.openingAnswer t ∧
        s.Reopened (us ++ s.asked t) (Session.hand t x).2 :=
    ⟨(congrArg Reply.answer (hand_fst t x)).trans hx.1, hx.2.hand t⟩
  rw [Session.step]
  unfold openStore
  apply handed
  have hkind := h.wiring
  cases hw' : s'.wiring with
  | separate enforce =>
    generalize hw : s.wiring = w at hkind
    rw [hw'] at hkind
    cases hkind
    have hasked : s.asked t = [t] := by
      cases t with
      | content => rfl
      | license => rw [asked, hw]
    rw [openingAnswer, hw, hasked]
    exact h.openTable t
  | container index licenses =>
    generalize hw : s.wiring = w at hkind
    rw [hw'] at hkind
    cases hkind
    rw [openingAnswer, hw]
    cases t with
    | content =>
      rw [Option.or_self]
      cases index with
      | true =>
        obtain ⟨hmem, hnone⟩ := h.kept .content (by rw [hw']; rfl)
        have hcounts := h.counts .content
        rw [hw'] at hcounts
        rw [hnone]
        exact ⟨handedOut_eq hcounts, h.again hmem⟩
      | false => exact h.containerIndex hw'
    | license =>
      rw [asked, hw]
      cases licenses with
      | true =>
        obtain ⟨hcontent, hnone⟩ := h.kept .content (by rw [hw']; exact Bool.or_true _)
        obtain ⟨hlicense, hnone'⟩ := h.kept .license (by rw [hw']; rfl)
        have hboth := (h.again hcontent).again (List.mem_append_left _ hlicense)
        rw [List.append_assoc] at hboth
        have hcounts := h.counts .license
        rw [hw'] at hcounts
        rw [hnone, hnone']
        cases index <;> exact ⟨handedOut_eq hcounts, hboth⟩
      | false => cases index <;> exact h.containerLicenses hw'

theorem Reopened.run (h : s.Reopened us s') (ts : List Table) :
    (s'.run (ts.map .openStore)).1.map Reply.answer = ts.map s.openingAnswer ∧
      s.Reopened (us ++ ts.flatMap s.asked) (s'.run (ts.map .openStore)).2 := by
  induction ts generalizing us s' with
  | nil =>
    rw [List.flatMap_nil, List.append_nil]
    exact ⟨rfl, h⟩
  | cons t ts ih =>
    obtain ⟨hanswer, hstep⟩ := h.step t
    obtain ⟨hanswers, hrun⟩ := ih hstep
    rw [List.append_assoc, ← List.flatMap_cons] at hrun
    rw [List.map_cons, run_cons, List.map_cons, hanswer, hanswers, List.map_cons]
    exact ⟨rfl, hrun⟩

end Session

end RightsStore
