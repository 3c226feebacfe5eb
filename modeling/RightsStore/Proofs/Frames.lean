import RightsStore.Proofs.Outcomes

namespace RightsStore

def Step.isOpening : Step → Bool
  | .openStore _ => true
  | _ => false

def Step.stream? : Step → Option String
  | .openStream name _ => some name
  | .next name => some name
  | .drain name => some name
  | .close name => some name
  | .scope name _ _ => some name
  | .state name => some name
  | _ => none

namespace Session

variable {s : Session}

def OnlyDatabase (s s' : Session) : Prop := ∃ db, s' = s.withDatabase db

def OnlyStream (name : String) (s s' : Session) : Prop :=
  ∃ streams pool, s' = { s with streams, pool } ∧
    ∀ other, other ≠ name → streams.lookup other = s.streams.lookup other

theorem OnlyDatabase.refl (s : Session) : s.OnlyDatabase s := ⟨s.database, rfl⟩

theorem OnlyStream.refl (name : String) (s : Session) : OnlyStream name s s :=
  ⟨s.streams, s.pool, rfl, fun _ _ => rfl⟩

theorem onlyDatabase_onStore {t : Table} {run : Reply × Session} (h : s.OnlyDatabase run.2) :
    s.OnlyDatabase (s.onStore t run).2 := by
  rw [onStore]
  split
  · exact h
  · exact .refl s

theorem onlyDatabase_writing (x : Except Failure Database) (e : Event) :
    s.OnlyDatabase (s.writing x e).2 := by
  cases x with
  | error f => exact .refl s
  | ok db => exact ⟨db, rfl⟩

theorem onlyDatabase_rewriting (x : Except Failure (Database × Nat)) (e : Event) :
    s.OnlyDatabase (s.rewriting x e).2 := by
  cases x with
  | error f => exact .refl s
  | ok p =>
    obtain ⟨db, n⟩ := p
    cases n with
    | zero => exact ⟨db, rfl⟩
    | succ n => exact ⟨db, rfl⟩

theorem onlyDatabase_listing (rows : Except Failure (List ρ)) (read : ρ → Except Failure Item)
    (answer : List Item → Except Failure Answer) :
    s.OnlyDatabase (s.listing rows read answer).2 := by
  cases rows with
  | error f => exact .refl s
  | ok rows => exact .refl s

theorem onlyDatabase_ofExecuted (x : Executed Database) : s.OnlyDatabase (s.ofExecuted x).2 := by
  cases x with
  | error r => exact .refl s
  | ok db => exact ⟨db, rfl⟩

theorem onlyDatabase_prepare (f : Fixture) : s.OnlyDatabase (s.prepare f).2 := by
  cases f with
  | legacyContent rows => exact onlyDatabase_ofExecuted ..
  | other index =>
    rw [prepare]
    split
    · exact .refl s
    · rename_i db _
      obtain ⟨db', h⟩ := onlyDatabase_ofExecuted (s := s.withDatabase db) (db.indexOther index)
      exact ⟨db', h⟩

theorem onlyDatabase_insertRaw (table : String) (values : List (String × Datum)) :
    s.OnlyDatabase (s.insertRaw table values).2 := by
  rw [insertRaw]
  split
  · exact ⟨_, rfl⟩
  · exact .refl s

theorem onlyDatabase_step {x : Step} (hopening : x.isOpening = false) (hstream : x.stream? = none) :
    s.OnlyDatabase (s.step x).2 := by
  rw [step_eq]
  cases x with
  | prepare f => exact onlyDatabase_prepare f
  | insertRaw table values => exact onlyDatabase_insertRaw table values
  | tables => exact .refl s
  | columns table => exact .refl s
  | openStore t => cases hopening
  | dialect => exact .refl s
  | connections => exact .refl s
  | getContent id => exact onlyDatabase_onStore (.refl s)
  | addContent c => exact onlyDatabase_onStore (onlyDatabase_writing ..)
  | updateContent c => exact onlyDatabase_onStore (onlyDatabase_writing ..)
  | listContents => exact onlyDatabase_onStore (onlyDatabase_listing ..)
  | getLicense id => exact onlyDatabase_onStore (.refl s)
  | addLicense l => exact onlyDatabase_onStore (onlyDatabase_writing ..)
  | updateLicense l clock => exact onlyDatabase_onStore (onlyDatabase_writing ..)
  | updateRights l clock => exact onlyDatabase_onStore (onlyDatabase_rewriting ..)
  | setStatus id status => exact onlyDatabase_onStore (onlyDatabase_writing ..)
  | listLicenses contentId size number => exact onlyDatabase_onStore (onlyDatabase_listing ..)
  | listAllLicenses size number => exact onlyDatabase_onStore (onlyDatabase_listing ..)
  | dumpContents => exact onlyDatabase_onStore (onlyDatabase_listing ..)
  | dumpLicenses size number => exact onlyDatabase_onStore (onlyDatabase_listing ..)
  | undescribed store f =>
    cases store with
    | none => exact .refl s
    | some t => exact onlyDatabase_onStore (.refl s)
  | _ => cases hstream

theorem onlyStream_openStream (name : String) (rows : Except Failure (List ρ))
    (read : ρ → Except Failure Item) : OnlyStream name s (s.openStream name rows read).2 := by
  cases rows with
  | error f =>
    rw [openStream_error]
    exact .refl name s
  | ok rows =>
    rw [openStream_ok]
    refine ⟨_, _, rfl, ?_⟩
    intro other hother
    have hname : (other == name) = false := by simpa using hother
    simp [List.lookup_cons, hname]

theorem onlyStream_onStore {name : String} {t : Table} {run : Reply × Session}
    (h : OnlyStream name s run.2) : OnlyStream name s (s.onStore t run).2 := by
  rw [onStore]
  split
  · exact h
  · exact .refl name s

theorem onlyStream_starting (name : String) (q : Query) :
    OnlyStream name s (s.starting name q).2 := by
  cases q with
  | contents => exact onlyStream_onStore (onlyStream_openStream ..)
  | licenses contentId size number => exact onlyStream_onStore (onlyStream_openStream ..)
  | allLicenses size number => exact onlyStream_onStore (onlyStream_openStream ..)
  | numbers values failOn => exact onlyStream_openStream name (.ok values) (numberItem failOn)
  | missing => exact onlyStream_openStream name (.error _) (numberItem .null)

theorem release_eq (t : Stream) (c : Cursor) :
    s.release t c = { s with pool := (s.release t c).pool } := by
  rw [release]
  split <;> rfl

theorem streams_release (t : Stream) (c : Cursor) : (s.release t c).streams = s.streams := by
  rw [release_eq]

theorem onCursor_eq {name : String} {t : Stream} (h : s.stream? name = some t)
    (run : Cursor → Except Failure Answer × Cursor) :
    s.onCursor name run = (⟨(run t.cursor).1, closing t.cursor (run t.cursor).2⟩,
      (s.release t (run t.cursor).2).setStream name ⟨t.connection, (run t.cursor).2⟩) := by
  rw [onCursor, h]

theorem onlyStream_onCursor (name : String) (run : Cursor → Except Failure Answer × Cursor) :
    OnlyStream name s (s.onCursor name run).2 := by
  rw [onCursor]
  split
  · exact .refl name s
  · rw [release_eq]
    refine ⟨_, _, rfl, ?_⟩
    intro other hother
    exact lookup_replaceFirst_of_ne hother ..

theorem onlyStream_step {x : Step} {name : String} (h : x.stream? = some name) :
    OnlyStream name s (s.step x).2 := by
  rw [step_eq]
  cases x with
  | openStream name' q => cases h; exact onlyStream_starting ..
  | next name' => cases h; exact onlyStream_onCursor ..
  | drain name' => cases h; exact onlyStream_onCursor ..
  | close name' => cases h; exact onlyStream_onCursor ..
  | scope name' take abort => cases h; exact onlyStream_onCursor ..
  | state name' => cases h; exact onlyStream_onCursor ..
  | _ => cases h

theorem OnlyStream.database {s' : Session} {name : String} (h : OnlyStream name s s') :
    s'.database = s.database := by
  obtain ⟨streams, pool, rfl, -⟩ := h
  rfl

structure Opens (s s' : Session) : Prop where
  dialect : s'.dialect = s.dialect
  streams : s'.streams = s.streams
  pool : s'.pool = s.pool
  database : ∃ ts, s'.database = s.database.openAll s.dialect ts

theorem Opens.refl (s : Session) : s.Opens s := ⟨rfl, rfl, rfl, [], rfl⟩

theorem Opens.trans {s' s'' : Session} (h : s.Opens s') (h' : s'.Opens s'') : s.Opens s'' := by
  obtain ⟨ts, hts⟩ := h.database
  obtain ⟨ts', hts'⟩ := h'.database
  refine ⟨h'.dialect.trans h.dialect, h'.streams.trans h.streams, h'.pool.trans h.pool, ts ++ ts', ?_⟩
  rw [hts', hts, h.dialect, Database.openAll_append]

theorem openTable_snd (s : Session) (t : Table) :
    (s.openTable t).2 = s.withDatabase (s.database.open s.dialect t).database := by
  rw [openTable_eq, opening]
  split <;> rfl

theorem opens_openTable (s : Session) (t : Table) : s.Opens (s.openTable t).2 := by
  rw [openTable_snd]
  exact ⟨rfl, rfl, rfl, [t], rfl⟩

theorem opens_containerIndex (s : Session) (licenses : Bool) :
    s.Opens (s.containerIndex licenses).2 := by
  have h := s.opens_openTable .content
  unfold containerIndex
  split
  rename_i reply s' heq
  rw [heq] at h
  split
  · exact ⟨h.dialect, h.streams, h.pool, h.database⟩
  · exact h

theorem opens_containerLicenses (s : Session) (index : Bool) :
    s.Opens (s.containerLicenses index).2 := by
  unfold containerLicenses
  split
  rename_i first s' heq
  have hfirst : s.Opens s' := by
    cases index with
    | true =>
      cases heq
      exact .refl s
    | false =>
      have h := s.opens_containerIndex false
      simp only [Bool.false_eq_true, if_false] at heq
      rw [heq] at h
      exact h
  split
  · exact hfirst
  · split
    rename_i second s'' heq'
    have hsecond := s'.opens_openTable .license
    rw [heq'] at hsecond
    have hboth := hfirst.trans hsecond
    split
    · exact hboth
    · exact ⟨hboth.dialect, hboth.streams, hboth.pool, hboth.database⟩

theorem opens_hand {t : Table} {x : Reply × Session} (h : s.Opens x.2) :
    s.Opens (hand t x).2 := by
  unfold hand
  split
  · exact h
  · split <;> exact ⟨h.dialect, h.streams, h.pool, h.database⟩

theorem opens_openStore (s : Session) (t : Table) : s.Opens (s.openStore t).2 := by
  unfold openStore
  apply opens_hand
  cases s.wiring with
  | separate b => cases t <;> exact s.opens_openTable _
  | container index licenses =>
    cases t with
    | content =>
      cases index with
      | true => exact .refl s
      | false => exact s.opens_containerIndex licenses
    | license =>
      cases licenses with
      | true => cases index <;> exact .refl s
      | false => cases index <;> exact s.opens_containerLicenses _

end Session

end RightsStore
