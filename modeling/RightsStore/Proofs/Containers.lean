import RightsStore.Proofs.Refusals
import RightsStore.Proofs.Reopenings

namespace RightsStore

def Wiring.make : Wiring → Table → Wiring
  | .separate b, _ => .separate b
  | .container _ licenses, .content => .container true licenses
  | .container index _, .license => .container index true

theorem Wiring.built_make_self (index licenses : Bool) (t : Table) :
    ((Wiring.container index licenses).make t).built t = true := by
  cases t <;> rfl

theorem Wiring.built_make {w : Wiring} {u : Table} (h : w.built u = true) (t : Table) :
    (w.make t).built u = true := by
  cases w with
  | separate b => cases h
  | container index licenses => cases t <;> cases u <;> first | rfl | exact h

theorem Wiring.eq_or_built_of_make {w : Wiring} {t u : Table} (h : (w.make t).built u = true) :
    u = t ∨ w.built u = true := by
  cases w with
  | separate b => cases h
  | container index licenses => cases t <;> cases u <;> first | exact .inl rfl | exact .inr h

theorem Database.obstacle?_of_has {db : Database} {t : Table} (h : db.has t = true) :
    db.obstacle? t = none := by
  rw [obstacle?, h]
  rfl

theorem Database.log_open_ne_nil (db : Database) (d : Dialect) (t : Table) :
    (db.open d t).log ≠ [] := by
  unfold Database.open
  split
  · exact List.cons_ne_nil _ _
  · have hprepared : Opening.prepared d t ≠ [] := by cases t <;> exact List.cons_ne_nil _ _
    exact List.append_ne_nil_of_right_ne_nil _ hprepared

namespace Session

def built (s : Session) (t : Table) : Bool := s.wiring.built t

/-- A container that has made no licenses without the index, no store twice or without its table,
and handed out no store but those that it has made. -/
structure Contained (s : Session) : Prop where
  container : ∃ index licenses, s.wiring = .container index licenses
  index : s.built .license = true → s.built .content = true
  has : ∀ t, s.built t = true → s.database.has t = true
  isOpen : ∀ t, s.isOpen t = true → s.built t = true
  counts : ∀ t, s.counts.of t = if s.built t then 1 else 0

/-- A store that the container has made and handed out. The index comes along with the licenses. -/
structure Given (s : Session) (t : Table) : Prop where
  built : s.built t = true
  index : s.isOpen .content = true
  isOpen : s.isOpen t = true

/-- What a container that has not made the store of `t` does when it is asked for it: it tries,
keeps what it has made before, and has made this one too unless it fails. -/
structure Tries (s : Session) (t : Table) (r : Reply × Session) : Prop where
  contained : r.2.Contained
  keeps : ∀ u, s.built u = true → r.2.built u = true
  log : r.1.log ≠ []
  answer : r.1.answer =
    answerUnless ((s.database.obstacle? .content).or (s.database.obstacle? t)) (.opened t 1)
  built : r.2.built t = r.1.answer.isOk

variable {s s' : Session} {t : Table}

namespace Contained

theorem start (d : Dialect) (db : Database) :
    ((start d (.container false false)).withDatabase db).Contained := by
  refine ⟨⟨false, false, rfl⟩, nofun, ?_, ?_, ?_⟩
  · intro t ht
    cases t <;> cases ht
  · intro t ht
    cases t <;> cases ht
  · intro t
    cases t <;> rfl

theorem sameStores (h : s.Contained) (hsame : s.SameStores s') (hcounts : s'.counts = s.counts)
    (hhas : ∀ t, s.database.has t = true → s'.database.has t = true) : s'.Contained := by
  have hbuilt (t : Table) : s'.built t = s.built t := by rw [Session.built, hsame.wiring, Session.built]
  refine ⟨?_, ?_, ?_, ?_, ?_⟩
  · rw [hsame.wiring]
    exact h.container
  · rw [hbuilt, hbuilt]
    exact h.index
  · intro t ht
    rw [hbuilt] at ht
    exact hhas t (h.has t ht)
  · intro t ht
    rw [hsame.isOpen] at ht
    rw [hbuilt]
    exact h.isOpen t ht
  · intro t
    rw [hbuilt, hcounts]
    exact h.counts t

end Contained

def handed (s : Session) : Table → Session
  | .content => { s with index := true }
  | .license => { s with index := true, licenses := true }

theorem built_handed (t u : Table) : (s.handed t).built u = s.built u := by
  cases t <;> rfl

theorem Given.handed_eq (h : s.Given t) : s.handed t = s := by
  obtain ⟨dialect, wiring, counts, database, pool, index, licenses, streams⟩ := s
  obtain ⟨-, hindex, hopen⟩ := h
  cases t with
  | content =>
    cases hindex
    rfl
  | license =>
    cases hindex
    cases hopen
    rfl

theorem given_handed (hbuilt : s.built t = true) : (s.handed t).Given t := by
  rw [← built_handed t t] at hbuilt
  cases t with
  | content => exact ⟨hbuilt, rfl, rfl⟩
  | license => exact ⟨hbuilt, rfl, rfl⟩

theorem Contained.handed (h : s.Contained) (hbuilt : s.built t = true) : (s.handed t).Contained := by
  cases t with
  | content =>
    refine ⟨h.container, h.index, h.has, fun u hu => ?_, h.counts⟩
    cases u with
    | content => exact hbuilt
    | license => exact h.isOpen .license hu
  | license =>
    refine ⟨h.container, h.index, h.has, fun u _ => ?_, h.counts⟩
    cases u with
    | content => exact h.index hbuilt
    | license => exact hbuilt

theorem hand_of_ok (h : s.Contained) (a : Answer) (log : List Event) :
    hand t (⟨.ok a, log⟩, s) = (⟨.ok a, log⟩, s.handed t) := by
  obtain ⟨index, licenses, hw⟩ := h.container
  obtain ⟨dialect, wiring, counts, database, pool, i, l, streams⟩ := s
  cases hw
  cases t <;> rfl

section Asking

theorem openTable_of_obstacle {r : Refusal} (h : s.database.obstacle? t = some r) :
    s.openTable t = (⟨.error (.refused r), (s.database.open s.dialect t).log⟩, s) := by
  have hrefusal : (s.database.open s.dialect t).refusal = some r := by
    rw [Database.refusal_open, h]
  have hsnd : (s.openTable t).2 = s := by
    rw [openTable_snd, (Database.open_of_refusal hrefusal).1]
    rfl
  refine Prod.ext ?_ hsnd
  rw [openTable_fst, h]
  rfl

theorem openTable_of_free (h : s.database.obstacle? t = none) :
    s.openTable t = (⟨.ok .done, (s.database.open s.dialect t).log⟩,
      s.withDatabase (s.database.open s.dialect t).database) := by
  refine Prod.ext ?_ (openTable_snd s t)
  rw [openTable_fst, h]
  rfl

def made (s : Session) (t : Table) : Session :=
  { s with
    database := (s.database.open s.dialect t).database
    wiring := s.wiring.make t
    counts := s.counts.add t }

theorem counts_made (h : s.Contained) (hbuilt : s.built t = false) : (s.made t).counts.of t = 1 := by
  have hcount := h.counts t
  rw [hbuilt] at hcount
  cases t <;> exact congrArg (· + 1) hcount

theorem Contained.made (h : s.Contained) (hbuilt : s.built t = false)
    (hindex : t = .license → s.built .content = true) (hfree : s.database.obstacle? t = none) : (s.made t).Contained := by
  have hgrows := s.database.open_grows s.dialect t
  obtain ⟨index, licenses, hw⟩ := h.container
  refine ⟨?_, ?_, ?_, ?_, ?_⟩
  · rw [Session.made, hw]
    cases t <;> exact ⟨_, _, rfl⟩
  · intro _
    cases t with
    | content =>
      rw [built, Session.made, hw]
      rfl
    | license => exact Wiring.built_make (hindex rfl) .license
  · intro u hu
    rcases Wiring.eq_or_built_of_make hu with rfl | hu
    · exact Database.has_open_of_not_refused (by rw [Database.refusal_open, hfree])
    · exact hgrows.has u (h.has u hu)
  · intro u hu
    have hopen : s.isOpen u = true := by cases u <;> exact hu
    exact Wiring.built_make (h.isOpen u hopen) t
  · intro u
    by_cases hu : u = t
    · have hmade : (s.made t).built t = true := by
        rw [built, Session.made, hw]
        exact Wiring.built_make_self index licenses t
      rw [hu, counts_made h hbuilt, hmade]
      rfl
    · have hsame : (s.made t).built u = s.built u := by
        rw [built, built, Session.made, hw]
        cases t <;> cases u <;> first | rfl | exact absurd rfl hu
      have hcount : (s.made t).counts.of u = s.counts.of u := by
        cases t <;> cases u <;> first | rfl | exact absurd rfl hu
      rw [hsame, hcount]
      exact h.counts u

end Asking

theorem containerIndex_of_obstacle {r : Refusal} (h : s.database.obstacle? .content = some r)
    (licenses : Bool) : s.containerIndex licenses =
      (⟨.error (.refused r), (s.database.open s.dialect .content).log⟩, s) := by
  rw [containerIndex, openTable_of_obstacle h]

theorem containerIndex_of_free (hs : s.Contained) (hbuilt : s.built .content = false)
    (h : s.database.obstacle? .content = none) {index licenses : Bool}
    (hw : s.wiring = .container index licenses) : s.containerIndex licenses =
      (⟨.ok (.opened .content 1), (s.database.open s.dialect .content).log⟩, s.made .content) := by
  have hcount := handedOut_eq (counts_made hs hbuilt)
  rw [made, hw] at hcount
  rw [containerIndex, openTable_of_free h, made, hw, ← hcount]
  rfl

theorem containerLicenses_of_obstacle {r : Refusal} (h : s.database.obstacle? .license = some r) :
    s.containerLicenses true =
      (⟨.error (.refused r), (s.database.open s.dialect .license).log⟩, s) := by
  rw [containerLicenses, if_pos rfl]
  dsimp only
  rw [openTable_of_obstacle h]
  rfl

theorem containerLicenses_of_free (hs : s.Contained) (hbuilt : s.built .license = false)
    (h : s.database.obstacle? .license = none) {licenses : Bool}
    (hw : s.wiring = .container true licenses) : s.containerLicenses true =
      (⟨.ok (.opened .license 1), (s.database.open s.dialect .license).log⟩, s.made .license) := by
  have hcount := handedOut_eq (counts_made hs hbuilt)
  rw [made, hw] at hcount
  rw [containerLicenses, if_pos rfl]
  dsimp only
  rw [openTable_of_free h, made, hw, ← hcount]
  rfl

theorem containerLicenses_after (hs : s.Contained) (h : s.database.obstacle? .content = none)
    (hw : s.wiring = .container false false) : s.containerLicenses false =
      let r := (s.made .content).containerLicenses true;
      (⟨r.1.answer, (s.database.open s.dialect .content).log ++ r.1.log⟩, r.2) := by
  have hbuilt : s.built .content = false := by
    rw [built, hw]
    rfl
  rw [containerLicenses, if_neg Bool.false_ne_true, containerIndex_of_free hs hbuilt h hw,
    containerLicenses, if_pos rfl]
  dsimp only
  generalize (s.made .content).openTable .license = x
  obtain ⟨⟨answer, log⟩, s'⟩ := x
  cases answer <;> rfl

theorem containerLicenses_of_index_obstacle {r : Refusal}
    (h : s.database.obstacle? .content = some r) : s.containerLicenses false =
      (⟨.error (.refused r), (s.database.open s.dialect .content).log⟩, s) := by
  rw [containerLicenses, if_neg Bool.false_ne_true, containerIndex_of_obstacle h]

namespace Tries

variable {log : List Event} {r : Reply × Session}

theorem refused (h : s.Contained) (hbuilt : s.built t = false) {r : Refusal}
    (hobstacle : (s.database.obstacle? .content).or (s.database.obstacle? t) = some r)
    (hlog : log ≠ []) : s.Tries t (⟨.error (.refused r), log⟩, s) :=
  ⟨h, fun _ hu => hu, hlog, by rw [hobstacle]; rfl, hbuilt⟩

theorem made (h : s.Contained) (hbuilt : s.built t = false)
    (hindex : t = .license → s.built .content = true) (hcontent : s.database.obstacle? .content = none)
    (hfree : s.database.obstacle? t = none) (hlog : log ≠ []) :
    s.Tries t (⟨.ok (.opened t 1), log⟩, s.made t) := by
  refine ⟨h.made hbuilt hindex hfree, fun _ hu => Wiring.built_make hu t, hlog, ?_, ?_⟩
  · rw [hcontent, hfree]
    rfl
  · obtain ⟨index, licenses, hw⟩ := h.container
    rw [Session.built, Session.made, hw]
    exact Wiring.built_make_self index licenses t

theorem after (h : (s.made .content).Tries .license r) (log : List Event) :
    s.Tries .license (⟨r.1.answer, log ++ r.1.log⟩, r.2) := by
  have hobstacle (u : Table) :
      (s.made .content).database.obstacle? u = s.database.obstacle? u :=
    Database.obstacle?_open ..
  refine ⟨h.contained, fun u hu => h.keeps u (Wiring.built_make hu .content),
    List.append_ne_nil_of_right_ne_nil log h.log, ?_, h.built⟩
  rw [h.answer, hobstacle, hobstacle]

theorem hand (h : s.Tries t r) :
    s.Tries t (hand t r) ∧ (r.1.answer.isOk = true → (hand t r).2.Given t) := by
  obtain ⟨⟨answer, log⟩, s'⟩ := r
  cases answer with
  | error f => exact ⟨h, nofun⟩
  | ok a =>
    rw [hand_of_ok h.contained]
    refine ⟨⟨h.contained.handed h.built, fun u hu => ?_, h.log, h.answer, ?_⟩, fun _ => ?_⟩
    · rw [built_handed]
      exact h.keeps u hu
    · rw [built_handed]
      exact h.built
    · exact given_handed h.built

end Tries

theorem tries_containerIndex (h : s.Contained) {licenses : Bool}
    (hw : s.wiring = .container false licenses) : s.Tries .content (s.containerIndex licenses) := by
  have hlog := s.database.log_open_ne_nil s.dialect .content
  have hbuilt : s.built .content = false := by
    rw [built, hw]
    rfl
  cases hobstacle : s.database.obstacle? .content with
  | some r =>
    rw [containerIndex_of_obstacle hobstacle]
    refine .refused h hbuilt ?_ hlog
    rw [Option.or_self, hobstacle]
  | none =>
    rw [containerIndex_of_free h hbuilt hobstacle hw]
    exact .made h hbuilt nofun hobstacle hobstacle hlog

theorem tries_containerLicenses_true (h : s.Contained) (hw : s.wiring = .container true false) :
    s.Tries .license (s.containerLicenses true) := by
  have hlog := s.database.log_open_ne_nil s.dialect .license
  have hindex : s.built .content = true := by
    rw [built, hw]
    rfl
  have hbuilt : s.built .license = false := by
    rw [built, hw]
    rfl
  have hcontent := Database.obstacle?_of_has (h.has .content hindex)
  cases hobstacle : s.database.obstacle? .license with
  | some r =>
    rw [containerLicenses_of_obstacle hobstacle]
    refine .refused h hbuilt ?_ hlog
    rw [hcontent, hobstacle]
    rfl
  | none =>
    rw [containerLicenses_of_free h hbuilt hobstacle hw]
    exact .made h hbuilt (fun _ => hindex) hcontent hobstacle hlog

theorem tries_containerLicenses_false (h : s.Contained) (hw : s.wiring = .container false false) :
    s.Tries .license (s.containerLicenses false) := by
  cases hobstacle : s.database.obstacle? .content with
  | some r =>
    rw [containerLicenses_of_index_obstacle hobstacle]
    refine .refused h ?_ ?_ (s.database.log_open_ne_nil s.dialect .content)
    · rw [built, hw]
      rfl
    · rw [hobstacle]
      rfl
  | none =>
    have hbuilt : s.built .content = false := by
      rw [built, hw]
      rfl
    rw [containerLicenses_after h hobstacle hw]
    refine Tries.after (tries_containerLicenses_true (h.made hbuilt nofun hobstacle) ?_) _
    rw [made, hw]
    rfl

theorem tries_step (h : s.Contained) (hbuilt : s.built t = false) :
    s.Tries t (s.step (.openStore t)) ∧
      ((s.step (.openStore t)).1.answer.isOk = true → (s.step (.openStore t)).2.Given t) := by
  obtain ⟨index, licenses, hw⟩ := h.container
  rw [built, hw] at hbuilt
  rw [step_eq, outcome]
  unfold openStore
  rw [hand_fst]
  apply Tries.hand
  rw [hw]
  cases t with
  | content =>
    cases hbuilt
    exact tries_containerIndex h hw
  | license =>
    cases hbuilt
    cases index with
    | true => exact tries_containerLicenses_true h hw
    | false => exact tries_containerLicenses_false h hw

theorem step_of_built (h : s.Contained) (hbuilt : s.built t = true) :
    s.step (.openStore t) = (⟨.ok (.opened t 1), []⟩, s.handed t) := by
  obtain ⟨index, licenses, hw⟩ := h.container
  have hcount : s.counts.of t = 1 := by
    rw [h.counts t, hbuilt]
    rfl
  rw [built, hw] at hbuilt
  rw [← hand_of_ok h, step_eq, outcome, ← handedOut_eq hcount]
  unfold openStore
  rw [hw]
  cases t with
  | content =>
    cases hbuilt
    rfl
  | license =>
    cases hbuilt
    cases index <;> rfl

theorem contained_step (h : s.Contained) (x : Step) :
    (s.step x).2.Contained ∧ ∀ u, s.built u = true → (s.step x).2.built u = true := by
  cases hopening : x.isOpening with
  | false =>
    have hsame := sameStores_step (s := s) hopening
    have hcounts : (s.step x).2.counts = s.counts := by
      cases hstream : x.stream? with
      | none =>
        obtain ⟨db, hdb⟩ := onlyDatabase_step (s := s) hopening hstream
        rw [hdb]
        rfl
      | some name =>
        obtain ⟨streams, pool, hstreams, -⟩ := onlyStream_step (s := s) hstream
        rw [hstreams]
    refine ⟨h.sameStores hsame hcounts fun _ hhas => has_step hhas x, fun u hu => ?_⟩
    rw [built, hsame.wiring]
    exact hu
  | true =>
    cases x with
    | openStore t =>
      cases hbuilt : s.built t with
      | false =>
        have htries := (tries_step h hbuilt).1
        exact ⟨htries.contained, htries.keeps⟩
      | true =>
        rw [step_of_built h hbuilt]
        exact ⟨h.handed hbuilt, fun u hu => (built_handed t u).trans hu⟩
    | _ => cases hopening

theorem step_given (h : s.Contained) (ht : s.Given t) :
    s.step (.openStore t) = (⟨.ok (.opened t 1), []⟩, s) := by
  rw [step_of_built h ht.built, ht.handed_eq]

theorem given_step (h : s.Contained) (ht : s.Given t) (x : Step) : (s.step x).2.Given t :=
  ⟨(contained_step h x).2 t ht.built, isOpen_step ht.index x, isOpen_step ht.isOpen x⟩

theorem given_of_ok (h : s.Contained) (hok : (s.step (.openStore t)).1.answer.isOk = true) :
    (s.step (.openStore t)).2.Given t := by
  cases hbuilt : s.built t with
  | false => exact (tries_step h hbuilt).2 hok
  | true =>
    rw [step_of_built h hbuilt]
    exact given_handed hbuilt

theorem contained_run (h : s.Contained) (xs : List Step) :
    (s.run xs).2.Contained ∧ ∀ t, .openStore t ∈ s.succeeded xs → (s.run xs).2.Given t := by
  apply history_induction (P := fun history s => s.Contained ∧
    ∀ t, .openStore t ∈ history → s.Given t) ⟨h, nofun⟩ ?_ fun x _ => trivial
  rintro history s x ⟨h, hgiven⟩ -
  refine ⟨(contained_step h x).1, fun t ht => ?_⟩
  rcases List.mem_append.1 ht with hbefore | hnow
  · exact given_step h (hgiven t hbefore) x
  · unfold done at hnow
    split at hnow
    · rename_i hok
      cases List.mem_singleton.1 hnow
      exact given_of_ok h hok
    · cases hnow

theorem Contained.built_content (h : s.Contained) (ht : s.built t = true) :
    s.built .content = true := by
  cases t with
  | content => exact ht
  | license => exact h.index ht

/-- A store that is at hand has its table and, if licenses refer to contents, theirs. -/
theorem Contained.not_missingTable (h : s.Contained) {x : Step} (hx : x.store?.isSome = true)
    (name : String) : (s.step x).1.answer ≠ .error (.refused (.missingTable name)) := by
  obtain ⟨t, ht⟩ := Option.isSome_iff_exists.1 hx
  intro hmissing
  rcases (step_fits ht).of_error _ hmissing with hclosed | ⟨hopen, hfits⟩
  · cases hclosed
  · have hbuilt := h.isOpen t hopen
    have hhas := h.has t hbuilt
    have hcontent := h.has .content (h.built_content hbuilt)
    cases hfits with
    | own hown => cases hown
    | missing hnot => simp [hhas] at hnot
    | parent _ hnot => simp [hcontent] at hnot

theorem Contained.tries_again (h : s.Contained) {f : Failure}
    (hf : (s.step (.openStore t)).1.answer = .error f) :
    (s.step (.openStore t)).2.built t = false ∧
      (∀ u, s.built u = true → (s.step (.openStore t)).2.built u = true) ∧
      let s' := (s.step (.openStore t)).2;
      (s'.step (.openStore t)).1.log ≠ [] ∧ (s'.step (.openStore t)).1.answer =
        answerUnless ((s'.database.obstacle? .content).or (s'.database.obstacle? t))
          (.opened t 1) := by
  have hbuilt : s.built t = false := by
    rw [← Bool.not_eq_true]
    intro hbuilt
    rw [step_of_built h hbuilt] at hf
    cases hf
  have htries := (tries_step h hbuilt).1
  have hstill := htries.built
  rw [hf] at hstill
  have hagain := (tries_step htries.contained hstill).1
  exact ⟨hstill, htries.keeps, hagain.log, hagain.answer⟩

/-- Stores are asked for in any order, on any database, with anything done in between. A store that
was handed out once is handed out ever after and no statement is run for it, the index comes with
the licenses, a store that was made has its table, no step on a store fails for want of a table,
and a store that could not be made is tried again, with the index kept. -/
theorem handed_out_stores_have_tables (d : Dialect) (db : Database) (xs : List Step) :
    let first := (start d (.container false false)).withDatabase db;
    let s := (first.run xs).2;
    (∀ t, .openStore t ∈ first.succeeded xs →
        s.built t = true ∧ s.step (.openStore t) = (⟨.ok (.opened t 1), []⟩, s)) ∧
      (.openStore .license ∈ first.succeeded xs → s.built .content = true) ∧
      (∀ t, s.built t = true → s.database.has t = true) ∧
      (s.built .license = true → s.built .content = true) ∧
      (∀ (x : Step) (name : String), x.store?.isSome = true →
        (s.step x).1.answer ≠ .error (.refused (.missingTable name))) ∧
      ∀ t f, (s.step (.openStore t)).1.answer = .error f →
        let s' := (s.step (.openStore t)).2;
        s'.built t = false ∧ (∀ u, s.built u = true → s'.built u = true) ∧
          (s'.step (.openStore t)).1.log ≠ [] ∧ (s'.step (.openStore t)).1.answer =
            answerUnless ((s'.database.obstacle? .content).or (s'.database.obstacle? t))
          (.opened t 1) := by
  intro first s
  obtain ⟨hcontained, hgiven⟩ := contained_run (.start d db) xs
  refine ⟨fun t ht => ?_, fun ht => ?_, hcontained.has, hcontained.index, fun x name hx => ?_,
    fun t f hf => ?_⟩
  · exact ⟨(hgiven t ht).built, step_given hcontained (hgiven t ht)⟩
  · exact hcontained.built_content (hgiven .license ht).built
  · exact hcontained.not_missingTable hx name
  · obtain ⟨hbuilt, hkeeps, hlog, hanswer⟩ := hcontained.tries_again hf
    exact ⟨hbuilt, hkeeps, hlog, hanswer⟩

theorem handed_out_stores_have_tables_of_clash :
    let first := (start .sqlite (.container false false)).withDatabase
      { other := some { index := some .license } };
    let s := (first.run [.openStore .license, .openStore .content]).2;
    s.step (.openStore .content) = (⟨.ok (.opened .content 1), []⟩, s) ∧
      s.database.has .content = true ∧
      (s.step .listContents).1.answer ≠ .error (.refused (.missingTable "content")) ∧
      (s.step (.openStore .license)).2.built .license = false := by
  have hall := handed_out_stores_have_tables .sqlite { other := some { index := some .license } }
    [.openStore .license, .openStore .content]
  dsimp only at hall ⊢
  generalize hfirst : (start .sqlite (.container false false)).withDatabase
    { other := some { index := some .license } } = first at hall ⊢
  obtain ⟨hagain, -, hhas, -, hmissing, hfailed⟩ := hall
  have hsucceeded : .openStore .content ∈
      first.succeeded [.openStore .license, .openStore .content] := by
    have hsplit : [Step.openStore .license, .openStore .content] =
        [.openStore .license] ++ [.openStore .content] := rfl
    have hok : ((first.run [.openStore .license]).2.step (.openStore .content)).1.succeeded = true := by
      rw [← hfirst]
      decide +kernel
    rw [hsplit, succeeded_concat, done, if_pos hok]
    exact List.mem_append_right _ List.mem_cons_self
  have hcontent := hagain .content hsucceeded
  have hrefused : ((first.run [.openStore .license, .openStore .content]).2.step
      (.openStore .license)).1.succeeded = false := by
    rw [← hfirst]
    decide +kernel
  refine ⟨hcontent.2, hhas .content hcontent.1, hmissing .listContents "content" rfl, ?_⟩
  rw [Reply.succeeded] at hrefused
  cases hanswer : ((first.run [.openStore .license, .openStore .content]).2.step
      (.openStore .license)).1.answer with
  | error f => exact (hfailed .license f hanswer).1
  | ok a =>
    rw [hanswer] at hrefused
    cases hrefused

end Session

end RightsStore
