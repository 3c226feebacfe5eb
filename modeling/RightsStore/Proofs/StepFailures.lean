import RightsStore.Proofs.Connections
import RightsStore.Proofs.Refusals
import RightsStore.Proofs.Reopenings

namespace RightsStore

namespace Cursor

variable {c : Cursor}

theorem IsLocal.next (h : c.IsLocal) : FailsLocally c.next.1 ∧ c.next.2.IsLocal := by
  match c, h with
  | .closed, _ => exact ⟨.ok _, trivial⟩
  | .reading [], _ => exact ⟨.ok _, trivial⟩
  | .reading (.ok a :: rest), h => exact ⟨.ok _, fun x hx => h x (List.mem_cons_of_mem _ hx)⟩
  | .reading (.error f :: rest), h =>
    exact ⟨.error ((h _ List.mem_cons_self).of_error f rfl), trivial⟩

theorem IsLocal.take (h : c.IsLocal) (n : Nat) : FailsLocally (c.take n).1 := by
  induction n generalizing c with
  | zero => exact .ok _
  | succ n ih =>
    obtain ⟨hanswer, hrest⟩ := h.next
    have htake := ih hrest
    unfold Cursor.take
    split
    · rename_i f c' heq
      rw [heq] at hanswer
      exact .error (hanswer.of_error f rfl)
    · rename_i a c' heq
      rw [heq] at htake
      split
      · rename_i f c'' heq'
        rw [heq'] at htake
        exact .error (htake.of_error f rfl)
      · exact .ok _

theorem IsLocal.within (h : c.IsLocal) (take : Nat) (abort : Option String) :
    FailsLocally (c.within take abort) := by
  have htake := h.take take
  unfold Cursor.within
  split
  · rename_i f heq
    exact .error (htake.of_error f heq)
  · split
    · exact .error rfl
    · exact .ok _

end Cursor

namespace Session

variable {s : Session}

theorem numberItem_local (failOn : Datum) (n : Int) : FailsLocally (numberItem failOn n) := by
  unfold numberItem
  split
  · exact .error rfl
  · exact .ok _

theorem mem_replaceFirst {name : String} {a : α} {es : List (String × α)} {e : String × α}
    (h : e ∈ replaceFirst name a es) : e = (name, a) ∨ e ∈ es := by
  induction es with
  | nil => exact .inr h
  | cons e' es ih =>
    unfold replaceFirst at h
    split at h
    · rcases List.mem_cons.1 h with rfl | h
      · exact .inl rfl
      · exact .inr (List.mem_cons_of_mem _ h)
    · rcases List.mem_cons.1 h with rfl | h
      · exact .inr List.mem_cons_self
      · exact (ih h).imp_right (List.mem_cons_of_mem _)

def StreamsLocal (s : Session) : Prop := ∀ e ∈ s.streams, e.2.cursor.IsLocal

theorem StreamsLocal.onStore (h : s.StreamsLocal) {run : Reply × Session}
    (hrun : run.2.StreamsLocal) (t : Table) : (s.onStore t run).2.StreamsLocal := by
  rw [Session.onStore]
  split
  · exact hrun
  · exact h

theorem StreamsLocal.openStream (h : s.StreamsLocal) (name : String)
    (rows : Except Failure (List ρ)) {read : ρ → Except Failure Item}
    (hread : ∀ r, FailsLocally (read r)) : (s.openStream name rows read).2.StreamsLocal := by
  cases rows with
  | error f =>
    rw [openStream_error]
    exact h
  | ok rows =>
    rw [openStream_ok]
    intro e he
    rcases List.mem_cons.1 he with rfl | he
    · exact Cursor.isLocal_ofRows hread rows
    · exact h e he

theorem StreamsLocal.stream? (h : s.StreamsLocal) {name : String} {t : Stream}
    (ht : s.stream? name = some t) : t.cursor.IsLocal := by
  obtain ⟨before, after, hsplit, -⟩ := exists_split_of_lookup ht
  exact h (name, t) (hsplit ▸ List.mem_append_right _ List.mem_cons_self)

theorem StreamsLocal.onCursor (h : s.StreamsLocal) (name : String)
    {run : Cursor → Except Failure Answer × Cursor}
    (hrun : ∀ c : Cursor, c.IsLocal → FailsLocally (run c).1 ∧ (run c).2.IsLocal) :
    FailsLocally (s.onCursor name run).1.answer ∧ (s.onCursor name run).2.StreamsLocal := by
  cases ht : s.stream? name with
  | none =>
    rw [Session.onCursor, ht]
    exact ⟨.error rfl, h⟩
  | some t =>
    obtain ⟨hanswer, hrest⟩ := hrun t.cursor (h.stream? ht)
    rw [onCursor_eq ht]
    refine ⟨hanswer, ?_⟩
    intro e he
    rw [setStream, streams_release] at he
    rcases mem_replaceFirst he with rfl | he
    · exact hrest
    · exact h e he

theorem StreamsLocal.starting (h : s.StreamsLocal) (name : String) (q : Query) :
    (s.starting name q).2.StreamsLocal := by
  cases q with
  | contents => exact h.onStore (h.openStream name _ contentItem_local) .content
  | licenses contentId size number => exact h.onStore (h.openStream name _ licenseItem_local) .license
  | allLicenses size number => exact h.onStore (h.openStream name _ licenseItem_local) .license
  | numbers values failOn => exact h.openStream name (.ok values) (numberItem_local failOn)
  | missing => exact h.openStream name (.error _) (numberItem_local .null)

theorem StreamsLocal.next (h : s.StreamsLocal) (name : String) :
    FailsLocally (s.outcome (.next name)).1.answer ∧ (s.outcome (.next name)).2.StreamsLocal :=
  h.onCursor name fun _ hc => ⟨hc.next.1.map _, hc.next.2⟩

theorem StreamsLocal.drain (h : s.StreamsLocal) (name : String) :
    FailsLocally (s.outcome (.drain name)).1.answer ∧ (s.outcome (.drain name)).2.StreamsLocal :=
  h.onCursor name fun _ hc => ⟨hc.drain.map _, trivial⟩

theorem StreamsLocal.close (h : s.StreamsLocal) (name : String) :
    FailsLocally (s.outcome (.close name)).1.answer ∧ (s.outcome (.close name)).2.StreamsLocal :=
  h.onCursor name fun _ _ => ⟨.ok _, trivial⟩

theorem StreamsLocal.scope (h : s.StreamsLocal) (name : String) (take : Nat)
    (abort : Option String) : FailsLocally (s.outcome (.scope name take abort)).1.answer ∧
      (s.outcome (.scope name take abort)).2.StreamsLocal :=
  h.onCursor name fun _ hc => ⟨(hc.within take abort).map _, trivial⟩

theorem StreamsLocal.state (h : s.StreamsLocal) (name : String) :
    FailsLocally (s.outcome (.state name)).1.answer ∧ (s.outcome (.state name)).2.StreamsLocal :=
  h.onCursor name fun _ hc => ⟨.ok _, hc⟩

theorem StreamsLocal.step (h : s.StreamsLocal) (x : Step) : (s.step x).2.StreamsLocal := by
  cases hstream : x.stream? with
  | none =>
    intro e he
    rw [(streams_and_pool_step hstream).1] at he
    exact h e he
  | some name =>
    rw [step_eq]
    cases x with
    | openStream name q => exact h.starting name q
    | next name => exact (h.next name).2
    | drain name => exact (h.drain name).2
    | close name => exact (h.close name).2
    | scope name take abort => exact (h.scope name take abort).2
    | state name => exact (h.state name).2
    | _ => cases hstream

end Session

def Step.Names (name : String) : Step → Prop
  | .insertRaw table values => ∃ i more, i.qualifiedTable = name ∧
      Sql.Insertion.ofText (Sql.insertionText table (values.map (·.1))).toList = .ok (i, more)
  | _ => False

section Raw

variable {db : Database}

theorem Relation.targets_local (r : Relation) (i : Sql.Insertion) :
    FailsOnly (·.isLocal = true) (r.targets i) := by
  unfold targets
  split
  · exact .ok _
  · refine .mapM (fun n => ?_) _
    split
    · exact .ok _
    · exact .error rfl

theorem Database.resolve_failsOnly (i : Sql.Insertion) :
    FailsOnly (fun r => r.isLocal = true ∨ r = .missingTable i.qualifiedTable) (db.resolve i) := by
  unfold resolve
  split
  · exact .error (.inr rfl)
  · exact .error (.inl rfl)
  · refine .bind ((Relation.targets_local _ i).imp fun _ => .inl) fun targets _ => ?_
    dsimp only
    split
    · exact .error (.inl rfl)
    · split
      · exact .ok _
      · unfold miscounted
        split
        · exact .error (.inl rfl)
        · exact .error (.inl rfl)

theorem Database.insertInto_local (r : Relation) (values : List (Target × Cell)) :
    FailsOnly (·.isLocal = true) (db.insertInto r values) := by
  cases r with
  | content t => exact .bind (t.insertNumbered_local ..) fun _ _ => .ok _
  | license t => exact .bind (t.insertNumbered_local ..) fun _ _ => .ok _
  | other t =>
    exact .bind (.bind (askedNumber_local _) fun n _ =>
      .bind (t.entries.checkNumber_local "other" n) fun _ _ => .ok _) fun _ _ => .ok _
  | catalogue temporary => exact .error rfl

theorem checkText_failsOnly (sql : String) : FailsLocally (checkText sql) := by
  unfold checkText
  split
  · exact .error rfl
  · exact .ok _

theorem eq_of_checkText {sql : String} {cs : List Char} (h : checkText sql = .ok cs) :
    cs = sql.toList := by
  unfold checkText at h
  split at h
  · cases h
  · cases h
    rfl

theorem ofReading_local (x : Except Sql.Misreading α) : FailsLocally (ofReading x) := by
  cases x with
  | error m => exact .error rfl
  | ok a => exact .ok a

theorem ofReading_eq_ok {x : Except Sql.Misreading α} {a : α} (h : ofReading x = .ok a) :
    x = .ok a := by
  cases x with
  | error m => cases h
  | ok b =>
    cases h
    rfl

theorem checkSingle_local (more : Bool) : FailsLocally (checkSingle more) := by
  unfold checkSingle
  split
  · exact .error rfl
  · exact .ok _

theorem Database.insertWorded_failsOnly (table : String) (values : List (String × Datum)) :
    FailsOnly (fun f => f.isLocal = true ∨ ∃ name, (Step.insertRaw table values).Names name ∧
      f = .refused (.missingTable name)) (db.insertWorded table values) := by
  refine .bind ((checkText_failsOnly _).imp fun _ => .inl) fun sql hsql =>
    .bind ((ofReading_local _).imp fun _ => .inl) fun ⟨insertion, more⟩ hread =>
      .bind (.ofExecuted ((resolve_failsOnly insertion).imp ?_)) fun ⟨relation, targets⟩ _ =>
        .bind ((checkSingle_local more).imp fun _ => .inl) fun _ _ => ?_
  · rintro r (hlocal | rfl)
    · exact .inl hlocal
    · refine .inr ⟨_, ⟨insertion, more, rfl, ?_⟩, rfl⟩
      rw [← eq_of_checkText hsql]
      exact ofReading_eq_ok hread
  · dsimp only
    split
    · exact .error (.inl rfl)
    · refine .bind ((FailsOnly.mapM (fun v => v.1.2.bind_local _) _).imp fun _ => .inl)
        fun bound _ => ?_
      exact .ofExecuted ((insertInto_local relation _).imp fun _ => .inl)

end Raw

namespace Session

variable {s : Session}

theorem openStore_of_separate {b : Bool} (hw : s.wiring = .separate b) (t : Table) :
    s.openStore t = hand t (s.openTable t) := by
  unfold openStore
  rw [hw]

theorem openStore_local {b : Bool} (hw : s.wiring = .separate b) (t : Table) :
    FailsLocally (s.openStore t).1.answer := by
  rw [openStore_of_separate hw, hand_fst, openTable_fst]
  unfold Database.obstacle?
  split
  · exact .error rfl
  · exact .ok _

theorem ofExecuted_failsOnly {P : Failure → Prop} {x : Executed Database}
    (h : FailsOnly (fun r => P (.refused r)) x) : FailsOnly P (s.ofExecuted x).1.answer := by
  cases x with
  | error r => exact .error (h.of_error r rfl)
  | ok db => exact .ok _

theorem prepare_failsOnly (f : Fixture) :
    FailsOnly (fun f => f.isLocal = true ∨ f = .refused (.missingTable "other"))
      (s.prepare f).1.answer := by
  cases f with
  | legacyContent rows =>
    refine ofExecuted_failsOnly ?_
    unfold Database.addLegacyContent
    split
    · exact .error (.inl rfl)
    · split
      · exact .error (.inl rfl)
      · exact .ok _
  | other index =>
    unfold prepare
    dsimp only
    split
    · rename_i r hr
      unfold Database.addOther at hr
      split at hr
      · cases hr
        exact .error (.inl rfl)
      · cases hr
    · refine ofExecuted_failsOnly ?_
      unfold Database.indexOther
      split
      · exact .error (.inr rfl)
      · split
        · exact .error (.inl rfl)
        · exact .ok _

theorem insertRaw_failsOnly {P : Failure → Prop} {table : String} {values : List (String × Datum)}
    (h : FailsOnly P (s.database.insertWorded table values)) :
    FailsOnly P (s.insertRaw table values).1.answer := by
  unfold insertRaw
  split
  · exact .ok _
  · rename_i f hf
    exact .error (h.of_error f hf)

theorem columnsWorded_local (db : Database) (table : String) :
    FailsLocally (db.columnsWorded table) :=
  .bind (checkText_failsOnly _) fun _ _ => .bind (ofReading_local _) fun ⟨_, more⟩ _ =>
    .bind (checkSingle_local more) fun _ _ => .ok _

end Session

end RightsStore
