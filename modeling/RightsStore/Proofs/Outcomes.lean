import RightsStore.Proofs.Cursors
import RightsStore.Proofs.Openings
import RightsStore.Session

/-!
What the steps of a session come to, as functions of its database and of the cursors of its
streams. A program that fails has given its connections back and taken back what it has written, so
all that a step leaves of a failure is the answer, but for a stream that is closed by it.
-/

namespace RightsStore

namespace Session

variable (s : Session)

def writing (x : Except Failure Database) (e : Event) : Reply × Session :=
  match x with
  | .ok db => (⟨.ok .done, [e]⟩, s.withDatabase db)
  | .error f => (⟨.error f, []⟩, s)

def rewriting (x : Except Failure (Database × Nat)) (e : Event) : Reply × Session :=
  match x with
  | .ok (db, 0) => (⟨.error (.notFound .license), []⟩, s.withDatabase db)
  | .ok (db, _ + 1) => (⟨.ok .done, [e]⟩, s.withDatabase db)
  | .error f => (⟨.error f, []⟩, s)

def listing (rows : Except Failure (List ρ)) (read : ρ → Except Failure Item)
    (answer : List Item → Except Failure Answer) : Reply × Session :=
  match rows with
  | .error f => (⟨.error f, []⟩, s)
  | .ok rows => (⟨(Cursor.ofRows read rows).drain.bind answer, [.streamClosed]⟩, s)

def opening (o : Opened) : Reply × Session :=
  match o.refusal with
  | some r => (⟨.error (.refused r), o.log⟩, s.withDatabase o.database)
  | none => (⟨.ok .done, o.log⟩, s.withDatabase o.database)

def closing (old new : Cursor) : List Event :=
  if new.isClosed && !old.isClosed then [.streamClosed] else []

def release (t : Stream) (new : Cursor) : Session :=
  if new.isClosed && !t.cursor.isClosed then { s with pool := s.pool.giveBack t.connection } else s

def onCursor (name : String) (run : Cursor → Except Failure Answer × Cursor) : Reply × Session :=
  match s.stream? name with
  | none => (⟨.error (.unknownName name), []⟩, s)
  | some t =>
    (⟨(run t.cursor).1, closing t.cursor (run t.cursor).2⟩,
      (s.release t (run t.cursor).2).setStream name ⟨t.connection, (run t.cursor).2⟩)

def answerNext : Option Item → Answer
  | some i => .item i
  | none => .ended

def starting (name : String) : Query → Reply × Session
  | .contents => s.onStore .content <| s.openStream name (ContentIndex.list s.database) contentItem
  | .licenses contentId size number => s.onStore .license <|
    s.openStream name (LicenseStore.list s.database contentId size number) licenseItem
  | .allLicenses size number => s.onStore .license <|
    s.openStream name (LicenseStore.listAll s.database size number) licenseItem
  | .numbers values failOn => s.openStream name (.ok values) (numberItem failOn)
  | .missing =>
    s.openStream name (.error (.refused (.missingTable "missing_table"))) (numberItem .null)

def outcome : Step → Reply × Session
  | .prepare f => s.prepare f
  | .insertRaw table values => s.insertRaw table values
  | .tables => s.reading (.ok (.names s.database.tableNames))
  | .columns table => s.reading ((s.database.columnsWorded table).map .columns)
  | .openStore t => s.openStore t
  | .dialect => s.reading (.ok (.dialect s.dialect))
  | .connections => s.reading (.ok (.connections s.connections))
  | .getContent id => s.onStore .content <|
    s.reading ((ContentIndex.get s.database id).map (.item ∘ .content))
  | .addContent c => s.onStore .content <|
    s.writing (ContentIndex.add s.database c) (.contentAdded c.id)
  | .updateContent c => s.onStore .content <|
    s.writing (ContentIndex.update s.database c) (.contentUpdated c.id)
  | .listContents => s.onStore .content <|
    s.listing (ContentIndex.list s.database) contentItem answerItems
  | .getLicense id => s.onStore .license <|
    s.reading ((LicenseStore.get s.database id).map .license)
  | .addLicense l => s.onStore .license <|
    s.writing (LicenseStore.add s.enforce s.database l) (.licenseAdded l.id l.contentId)
  | .updateLicense l clock => s.onStore .license <|
    s.writing (LicenseStore.update s.enforce s.database l clock) (.licenseUpdated l.id)
  | .updateRights l clock => s.onStore .license <|
    s.rewriting (LicenseStore.updateRights s.database l clock) (.rightsUpdated l.id)
  | .setStatus id status => s.onStore .license <|
    s.writing (LicenseStore.setStatus s.database id status) (.statusSet id status)
  | .listLicenses contentId size number => s.onStore .license <|
    s.listing (LicenseStore.list s.database contentId size number) licenseItem answerItems
  | .listAllLicenses size number => s.onStore .license <|
    s.listing (LicenseStore.listAll s.database size number) licenseItem answerItems
  | .dumpContents => s.onStore .content <|
    s.listing (ContentIndex.list s.database) contentItem (answerDump Schema.content)
  | .dumpLicenses size number => s.onStore .license <|
    s.listing (LicenseStore.listAll s.database size number) licenseItem
      (answerDump Schema.licenseReport)
  | .openStream name q => s.starting name q
  | .next name => s.onCursor name fun c => (c.next.1.map answerNext, c.next.2)
  | .drain name => s.onCursor name fun c => (c.drain.map .items, .closed)
  | .close name => s.onCursor name fun _ => (.ok .done, .closed)
  | .scope name take abort => s.onCursor name fun c => ((c.within take abort).map .taken, .closed)
  | .state name =>
    s.onCursor name fun c => (.ok (.state c.isClosed s.connections), c)
  | .undescribed none f => s.reading (.error (.undescribed f))
  | .undescribed (some t) f => s.onStore t <| s.reading (.error (.undescribed f))

theorem performing_of_written {x : Program Unit} {y : Except Failure Database} {e : Event}
    (h : x s.world = Program.written y e s.world) : s.performing x = s.writing y e := by
  rw [performing, perform]
  cases y with
  | ok db =>
    rw [bind_of_ok h]
    rfl
  | error f =>
    rw [bind_of_error h]
    rfl

theorem performing_of_rewritten {x : Program Unit} {y : Except Failure (Database × Nat)} {e : Event}
    (h : x s.world = Program.rewritten y e s.world) : s.performing x = s.rewriting y e := by
  rw [performing, perform]
  match y with
  | .ok (db, 0) =>
    rw [bind_of_error h]
    rfl
  | .ok (db, n + 1) =>
    rw [bind_of_ok h]
    rfl
  | .error f =>
    rw [bind_of_error h]
    rfl

theorem perform_of_looked {x : Program α} {y : Except Failure α} (answer : α → Answer)
    (h : x s.world = Program.looked y s.world) :
    (s.perform do return answer (← x)) = s.reading (y.map answer) := by
  rw [perform]
  cases y with
  | ok a =>
    rw [bind_of_ok h]
    rfl
  | error f =>
    rw [bind_of_error h]
    rfl

theorem draining_of_streaming {ρ : Type} {x : Program Stream} {rows : Except Failure (List ρ)}
    {read : ρ → Except Failure Item} (answer : List Item → Except Failure Answer)
    (h : x s.world = Program.streaming rows read s.world) :
    s.draining x answer = s.listing rows read answer := by
  rw [draining, perform]
  cases rows with
  | error f =>
    rw [bind_of_error (Program.readAll_of_error h)]
    rfl
  | ok rows =>
    have hread := Program.readAll_of_ok (w := s.world) rfl h rfl
    rw [listing]
    cases hdrain : (Cursor.ofRows read rows).drain with
    | error f =>
      rw [hdrain] at hread
      rw [bind_of_error hread]
      rfl
    | ok items =>
      rw [hdrain] at hread
      rw [bind_of_ok hread]
      have hanswer : (Except.ok items).bind answer = answer items := rfl
      rw [hanswer]
      cases answer items <;> rfl

theorem startStream_of_streaming {ρ : Type} {x : Program Stream} {rows : Except Failure (List ρ)}
    {read : ρ → Except Failure Item} (name : String)
    (h : x s.world = Program.streaming rows read s.world) :
    s.startStream name x = s.openStream name rows read := by
  have hopened : Stream.opened (fun _ => rows) read s.world = Program.streaming rows read s.world :=
    Program.opened_eq _ _ rfl
  rw [openStream, startStream, startStream, h, hopened]

@[simp] theorem openStream_error {ρ : Type} (name : String) (f : Failure)
    (read : ρ → Except Failure Item) :
    s.openStream name (.error f) read = (⟨.error f, []⟩, s) := by
  have hopened : Stream.opened (fun _ => .error f) read s.world =
      Program.streaming (.error f) read s.world := Program.opened_eq _ _ rfl
  rw [openStream, startStream, hopened]
  rfl

@[simp] theorem openStream_ok {ρ : Type} (name : String) (rows : List ρ)
    (read : ρ → Except Failure Item) :
    s.openStream name (.ok rows) read = (⟨.ok .done, []⟩, { s with
      pool := s.pool.connect
      streams := (name, ⟨s.pool.free, .ofRows read rows⟩) :: s.streams }) := by
  have hopened : Stream.opened (fun _ => .ok rows) read s.world =
      Program.streaming (.ok rows) read s.world := Program.opened_eq _ _ rfl
  rw [openStream, startStream, hopened]
  rfl

theorem openTable_eq (t : Table) : s.openTable t = s.opening (s.database.open s.dialect t) := by
  have hopen := Program.openTable_eq (w := s.world) s.dialect t rfl
  rw [openTable, perform, opening]
  change Program.openTable s.dialect t s.world =
    Program.opened (s.database.open s.dialect t) s.world at hopen
  rw [Program.opened] at hopen
  cases h : (s.database.open s.dialect t).refusal with
  | none =>
    rw [h] at hopen
    rw [bind_of_ok hopen]
    rfl
  | some r =>
    rw [h] at hopen
    rw [bind_of_error hopen]
    rfl

theorem query_eq (name : String) (q : Query) : s.query name q = s.starting name q := by
  cases q with
  | contents =>
    exact congrArg (s.onStore .content) (s.startStream_of_streaming name (Program.contents_eq rfl))
  | licenses contentId size number =>
    exact congrArg (s.onStore .license)
      (s.startStream_of_streaming name (Program.licenses_eq contentId size number rfl))
  | allLicenses size number =>
    exact congrArg (s.onStore .license)
      (s.startStream_of_streaming name (Program.allLicenses_eq size number rfl))
  | numbers values failOn => rfl
  | missing => rfl

theorem within_moved (t : Stream) (c : Cursor) :
    s.within (Stream.Use.moved ⟨t, s.world⟩ c).world = s.release t c ∧
      (Stream.Use.moved ⟨t, s.world⟩ c).world.log = closing t.cursor c := by
  rw [Stream.Use.moved, release, closing]
  split
  · rw [World.giveBack_of_idle (w := s.world) rfl]
    exact ⟨rfl, rfl⟩
  · exact ⟨rfl, rfl⟩

theorem onStream_of_read (name : String) (x : Stream.Action Answer)
    (run : Cursor → Except Failure Answer × Cursor)
    (h : ∀ t, x ⟨t, s.world⟩ = Stream.Use.read ⟨t, s.world⟩ (run t.cursor)) :
    s.onStream name x = s.onCursor name run := by
  rw [onStream, onCursor]
  cases s.stream? name with
  | none => rfl
  | some t =>
    have hx := h t
    obtain ⟨hsession, hlog⟩ := s.within_moved t (run t.cursor).2
    rw [Stream.Use.read] at hx
    dsimp only
    rw [← hsession, ← hlog]
    cases hrun : (run t.cursor).1 with
    | ok a =>
      rw [hrun] at hx
      rw [hx]
      rfl
    | error f =>
      rw [hrun] at hx
      rw [hx]
      rfl

theorem onStream_next (name : String) :
    s.onStream name (.item <$> Stream.next) =
      s.onCursor name fun c => (c.next.1.map answerNext, c.next.2) := by
  rw [onStream, onCursor]
  cases s.stream? name with
  | none => rfl
  | some t =>
    have hnext := Stream.next_eq ⟨t, s.world⟩
    obtain ⟨hsession, hlog⟩ := s.within_moved t t.cursor.next.2
    rw [Stream.Use.found] at hnext
    dsimp only at hnext ⊢
    rw [← hsession, ← hlog]
    cases hfound : t.cursor.next.1 with
    | error f =>
      rw [hfound] at hnext
      rw [map_of_error hnext]
      rfl
    | ok found =>
      rw [hfound] at hnext
      cases found with
      | none =>
        rw [map_of_error hnext]
        rfl
      | some a =>
        rw [map_of_ok hnext]
        rfl

theorem map_read {α β : Type} {u : Stream.Use} {x : Stream.Action α}
    {y : Except Failure α} {c : Cursor} (h : x u = u.read (y, c)) (f : α → β) :
    (f <$> x) u = u.read (y.map f, c) := by
  cases y with
  | ok a => exact map_of_ok h f
  | error e => exact map_of_error h f

theorem step_state (name : String) : s.step (.state name) = s.outcome (.state name) := by
  have hstate (t : Stream) : (do
      let u ← get
      return .state u.stream.cursor.isClosed u.world.pool.inUse.length : Stream.Action Answer)
        ⟨t, s.world⟩ = Stream.Use.read ⟨t, s.world⟩
          (.ok (.state t.cursor.isClosed s.connections), t.cursor) := by
    have hself : Stream.Use.moved ⟨t, s.world⟩ t.cursor = ⟨t, s.world⟩ := Stream.Use.moved_self _
    exact congrArg (EStateM.Result.ok (Answer.state t.cursor.isClosed s.connections)) hself.symm
  exact s.onStream_of_read name _ (fun c => (.ok (.state c.isClosed s.connections), c)) hstate

theorem step_eq (x : Step) : s.step x = s.outcome x := by
  cases x with
  | getContent id =>
    exact congrArg (s.onStore .content)
      (s.perform_of_looked (.item ∘ .content) (Program.getContent_eq id rfl))
  | addContent c =>
    exact congrArg (s.onStore .content) (s.performing_of_written (Program.write_eq _ _ rfl))
  | updateContent c =>
    exact congrArg (s.onStore .content) (s.performing_of_written (Program.write_eq _ _ rfl))
  | listContents =>
    exact congrArg (s.onStore .content) (s.draining_of_streaming _ (Program.contents_eq rfl))
  | getLicense id =>
    exact congrArg (s.onStore .license)
      (s.perform_of_looked .license (Program.getLicense_eq id rfl))
  | addLicense l =>
    exact congrArg (s.onStore .license) (s.performing_of_written (Program.addLicense_eq _ l rfl))
  | updateLicense l clock =>
    exact congrArg (s.onStore .license)
      (s.performing_of_written (Program.updateLicense_eq _ l clock rfl))
  | updateRights l clock =>
    exact congrArg (s.onStore .license)
      (s.performing_of_rewritten (Program.updateRights_eq l clock rfl))
  | setStatus id status =>
    exact congrArg (s.onStore .license) (s.performing_of_written (Program.write_eq _ _ rfl))
  | listLicenses contentId size number =>
    exact congrArg (s.onStore .license)
      (s.draining_of_streaming _ (Program.licenses_eq contentId size number rfl))
  | listAllLicenses size number =>
    exact congrArg (s.onStore .license)
      (s.draining_of_streaming _ (Program.allLicenses_eq size number rfl))
  | dumpContents =>
    exact congrArg (s.onStore .content) (s.draining_of_streaming _ (Program.contents_eq rfl))
  | dumpLicenses size number =>
    exact congrArg (s.onStore .license)
      (s.draining_of_streaming _ (Program.allLicenses_eq size number rfl))
  | openStream name q => exact s.query_eq name q
  | next name => exact s.onStream_next name
  | drain name =>
    refine s.onStream_of_read name _ (fun c => (c.drain.map .items, .closed)) ?_
    intro t
    exact map_read (Stream.drain_eq _) _
  | close name =>
    refine s.onStream_of_read name _ (fun _ => (.ok .done, .closed)) ?_
    intro t
    exact bind_of_ok (Stream.close_eq _) _
  | scope name take abort =>
    refine s.onStream_of_read name _ (fun c => ((c.within take abort).map .taken, .closed)) ?_
    intro t
    exact map_read (Stream.within_eq take abort _) _
  | state name => exact s.step_state name
  | undescribed store f => cases store <;> rfl
  | _ => rfl

end Session

end RightsStore
