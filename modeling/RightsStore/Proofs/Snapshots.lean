import RightsStore.Proofs.History

/-!
Streams read what was there when they were opened. However they are read, and whatever is done in
between to the database and to other streams, the rows come in their order, each once and as it
was.
-/

namespace RightsStore

open Session

def Query.snapshot (q : Query) (s : Session) : Except Failure (List (Except Failure Item)) :=
  match q with
  | .contents => (ContentIndex.list s.database).map (·.map contentItem)
  | .licenses contentId size number =>
    (LicenseStore.list s.database contentId size number).map (·.map licenseItem)
  | .allLicenses size number =>
    (LicenseStore.listAll s.database size number).map (·.map licenseItem)
  | .numbers values failOn => .ok (values.map (numberItem failOn))
  | .missing => .error (.refused (.missingTable "missing_table"))

def Page.window (size number : Datum) (position : Nat) : Except Failure Window := do
  let (limit, offset) ← (← Page.of size number).bind position
  Window.ofCells limit offset

/-- The rows of the tables that a query has: all contents in the order of the table, a page of the
licenses of a content in that order, or a page of all licenses, the latest issued first. -/
inductive Query.Shows (db : Database) : Query → List (Except Failure Item) → Prop
  | contents : Shows db .contents (db.contentRows.map contentItem)
  | licenses : contentId.bind 1 = .ok c → Page.window size number 2 = .ok w →
      Shows db (.licenses contentId size number)
        ((w.apply (db.licenseRows.filter ((Affinity.text.convert c).matches ·.contentId))).map
          licenseItem)
  | allLicenses : Page.window size number 1 = .ok w →
      Shows db (.allLicenses size number)
        ((w.apply (db.licenseRows.mergeSort fun a b => !a.issued.lt b.issued)).map licenseItem)
  | numbers : Shows db (.numbers values failOn) (values.map (numberItem failOn))

theorem Query.shows_of_snapshot {q : Query} {s : Session} {items : List (Except Failure Item)}
    (h : q.snapshot s = .ok items) : q.Shows s.database items := by
  have hrows {t : LicenseTable} (ht : LicenseStore.table s.database = .ok t) :
      s.database.licenseRows = t.rows := by
    rw [Database.licenseRows, LicenseStore.table_eq_ok.1 ht]
    rfl
  cases q with
  | contents =>
    obtain ⟨rows, hlist, rfl⟩ := exists_of_map_eq_ok h
    obtain ⟨t, ht, hlist⟩ := exists_of_bind_eq_ok hlist
    cases hlist
    have hcontents : s.database.contentRows = t.rows := by
      rw [Database.contentRows, (ContentIndex.table_eq_ok.1 ht).1]
      rfl
    rw [← hcontents]
    exact .contents
  | licenses contentId size number =>
    obtain ⟨rows, hlist, rfl⟩ := exists_of_map_eq_ok h
    obtain ⟨page, hpage, hlist⟩ := exists_of_bind_eq_ok hlist
    obtain ⟨t, ht, hlist⟩ := exists_of_bind_eq_ok hlist
    obtain ⟨c, hc, hlist⟩ := exists_of_bind_eq_ok hlist
    obtain ⟨⟨limit, offset⟩, hcells, hlist⟩ := exists_of_bind_eq_ok hlist
    obtain ⟨w, hw, hlist⟩ := exists_of_bind_eq_ok hlist
    cases hlist
    rw [LicenseTable.ofContent, ← hrows ht]
    refine .licenses hc ?_
    rw [Page.window, hpage, ok_bind, hcells, ok_bind]
    exact hw
  | allLicenses size number =>
    obtain ⟨rows, hlist, rfl⟩ := exists_of_map_eq_ok h
    obtain ⟨page, hpage, hlist⟩ := exists_of_bind_eq_ok hlist
    obtain ⟨t, ht, hlist⟩ := exists_of_bind_eq_ok hlist
    obtain ⟨⟨limit, offset⟩, hcells, hlist⟩ := exists_of_bind_eq_ok hlist
    obtain ⟨w, hw, hlist⟩ := exists_of_bind_eq_ok hlist
    cases hlist
    rw [LicenseTable.byIssued, ← hrows ht]
    refine .allLicenses ?_
    rw [Page.window, hpage, ok_bind, hcells, ok_bind]
    exact hw
  | numbers values failOn =>
    cases h
    exact .numbers
  | missing => cases h

namespace Step

def ends (name : String) (x : Step) (r : Reply) : Bool :=
  match x, r.answer with
  | .next _, .ok (.item _) => false
  | .next name', _ => name' = name
  | .drain name', _ => name' = name
  | .close name', _ => name' = name
  | .scope name' _ _, _ => name' = name
  | _, _ => false

def delivered? (name : String) (x : Step) (r : Reply) : Option Item :=
  match x, r.answer with
  | .next name', .ok (.item a) => if name' = name then some a else none
  | _, _ => none

def reopens (name : String) : Step → Bool
  | .openStream name' _ => name' = name
  | _ => false

theorem ends_of_stream?_ne {name : String} {x : Step} (h : x.stream? ≠ some name) (r : Reply) :
    x.ends name r = false := by
  cases x with
  | next name' =>
    have hname : name' ≠ name := fun heq => h (congrArg some heq)
    unfold ends
    split <;> simp_all
  | drain name' => simpa [ends, stream?] using h
  | close name' => simpa [ends, stream?] using h
  | scope name' take abort => simpa [ends, stream?] using h
  | _ => rfl

theorem delivered?_of_stream?_ne {name : String} {x : Step} (h : x.stream? ≠ some name)
    (r : Reply) : x.delivered? name r = none := by
  cases x with
  | next name' =>
    have hname : name' ≠ name := fun heq => h (congrArg some heq)
    unfold delivered?
    split <;> simp_all
  | _ => rfl

end Step

namespace Session

def hasEnded (s : Session) (name : String) (xs : List Step) : Bool :=
  (xs.zip (s.run xs).1).any fun p => p.1.ends name p.2

theorem hasEnded_concat (s : Session) (name : String) (xs : List Step) (x : Step) :
    s.hasEnded name (xs ++ [x]) =
      (s.hasEnded name xs || x.ends name ((s.run xs).2.step x).1) := by
  rw [hasEnded, ← transcript, transcript_concat, List.any_append]
  simp [hasEnded, transcript]

def delivered (s : Session) (name : String) (xs : List Step) : List Item :=
  (xs.zip (s.run xs).1).filterMap fun p => p.1.delivered? name p.2

theorem delivered_concat (s : Session) (name : String) (xs : List Step) (x : Step) :
    s.delivered name (xs ++ [x]) =
      s.delivered name xs ++ (x.delivered? name ((s.run xs).2.step x).1).toList := by
  rw [delivered, ← transcript, transcript_concat, List.filterMap_append]
  cases h : x.delivered? name ((s.run xs).2.step x).1 <;> simp [h, delivered, transcript]

variable {s : Session} {name : String}

theorem onStore_of_ok {t : Table} {run : Reply × Session} {a : Answer}
    (h : (s.onStore t run).1.answer = .ok a) : s.onStore t run = run := by
  rw [onStore] at h ⊢
  split
  · rfl
  · rename_i hopen
    rw [if_neg hopen] at h
    cases h

def cursor? (s : Session) (name : String) : Option Cursor := (s.stream? name).map (·.cursor)

theorem cursor?_openStream {rows : Except Failure (List ρ)} {read : ρ → Except Failure Item}
    {a : Answer} (h : (s.openStream name rows read).1.answer = .ok a) :
    ∃ items, rows.map (·.map read) = .ok items ∧
      (s.openStream name rows read).2.cursor? name = some (.reading items) := by
  cases rows with
  | error f =>
    rw [openStream_error] at h
    cases h
  | ok rows =>
    rw [openStream_ok, cursor?, stream?, List.lookup_cons_self]
    exact ⟨rows.map read, rfl, rfl⟩

theorem cursor?_onStore_openStream {t : Table} {rows : Except Failure (List ρ)}
    {read : ρ → Except Failure Item} {a : Answer}
    (h : (s.onStore t (s.openStream name rows read)).1.answer = .ok a) :
    ∃ items, rows.map (·.map read) = .ok items ∧
      (s.onStore t (s.openStream name rows read)).2.cursor? name = some (.reading items) := by
  have hrun := onStore_of_ok h
  rw [hrun] at h ⊢
  exact cursor?_openStream h

theorem cursor?_starting {q : Query} {a : Answer} (h : (s.starting name q).1.answer = .ok a) :
    ∃ items, q.snapshot s = .ok items ∧
      (s.starting name q).2.cursor? name = some (.reading items) := by
  cases q with
  | contents => exact cursor?_onStore_openStream h
  | licenses contentId size number => exact cursor?_onStore_openStream h
  | allLicenses size number => exact cursor?_onStore_openStream h
  | numbers values failOn => exact cursor?_openStream h
  | missing =>
    rw [starting, openStream_error] at h
    cases h

theorem stream?_step {x : Step} (h : x.stream? ≠ some name) :
    (s.step x).2.stream? name = s.stream? name := by
  cases hopening : x.isOpening with
  | true =>
    cases x with
    | openStore t =>
      have hopens := s.opens_openStore t
      rw [stream?, stream?, step_eq, outcome, hopens.streams]
    | _ => cases hopening
  | false =>
    cases hstream : x.stream? with
    | none =>
      obtain ⟨db, hdb⟩ := onlyDatabase_step (s := s) hopening hstream
      rw [hdb]
      rfl
    | some other =>
      obtain ⟨streams, pool, hstreams, hothers⟩ := onlyStream_step (s := s) hstream
      rw [hstreams]
      apply hothers
      rintro rfl
      exact h hstream

theorem answer_onCursor {c : Cursor} (h : s.cursor? name = some c)
    (run : Cursor → Except Failure Answer × Cursor) :
    (s.onCursor name run).1.answer = (run c).1 := by
  obtain ⟨t, ht, rfl⟩ := Option.map_eq_some_iff.1 h
  rw [onCursor_eq ht]

theorem stream?_setStream {t : Stream} (h : s.stream? name = some t) (c : Cursor) (t' : Stream) :
    ((s.release t c).setStream name t').stream? name = some t' := by
  rw [stream?_setStream_self, stream?, streams_release, ← stream?, h]
  rfl

theorem cursor?_onCursor {c : Cursor} (h : s.cursor? name = some c)
    (run : Cursor → Except Failure Answer × Cursor) :
    (s.onCursor name run).2.cursor? name = some (run c).2 := by
  obtain ⟨t, ht, rfl⟩ := Option.map_eq_some_iff.1 h
  rw [onCursor_eq ht, cursor?, stream?_setStream ht]
  rfl

/-- A stream of these items that has given some, and has ended or not. -/
structure Reads (s : Session) (name : String) (items : List (Except Failure Item)) (ended : Bool)
    (given : List Item) : Prop where
  cursor : s.cursor? name =
    some (if ended then .closed else .reading (items.drop given.length))
  given : given.map .ok = items.take given.length

variable {items : List (Except Failure Item)} {ended : Bool} {given : List Item}

theorem Reads.close (h : s.Reads name items ended given) {s' : Session}
    (hs' : s'.cursor? name = some .closed) : s'.Reads name items true given :=
  ⟨hs', h.given⟩

theorem Reads.next (h : s.Reads name items ended given) :
    let x := Step.next name
    (s.step x).2.Reads name items (ended || x.ends name (s.step x).1)
      (given ++ (x.delivered? name (s.step x).1).toList) := by
  let run := fun c : Cursor => (c.next.1.map answerNext, c.next.2)
  have hcursor := cursor?_onCursor h.cursor run
  have hanswer := answer_onCursor h.cursor run
  simp only [step_eq, outcome]
  generalize s.onCursor name _ = r at hcursor hanswer ⊢
  obtain ⟨⟨answer, log⟩, s'⟩ := r
  dsimp only [run] at hcursor hanswer ⊢
  subst hanswer
  -- a stream that has ended stays as it is; of another one the first item that is left is taken
  cases ended with
  | true =>
    refine ⟨hcursor, ?_⟩
    simp [Step.delivered?, Except.map, answerNext, h.given]
  | false =>
    rw [if_neg Bool.false_ne_true] at hcursor ⊢
    cases hitems : items.drop given.length with
    | nil =>
      rw [hitems] at hcursor
      refine ⟨?_, ?_⟩
      · rw [hcursor]
        simp [Step.ends, Except.map, answerNext]
      · simp [Step.delivered?, Except.map, answerNext, h.given]
    | cons row rest =>
      rw [hitems] at hcursor
      have hrow : items[given.length]? = some row := by
        rw [← List.head?_drop, hitems]
        rfl
      have hrest : items.drop (given.length + 1) = rest := by
        rw [← List.tail_drop, hitems]
        rfl
      refine ⟨?_, ?_⟩
      · rw [hcursor]
        cases row with
        | ok a => simp [Step.ends, Step.delivered?, Except.map, answerNext, hrest]
        | error f => simp [Step.ends, Except.map]
      · cases row with
        | ok a => simp [Step.delivered?, Except.map, answerNext, List.take_add_one, hrow, h.given]
        | error f => simp [Step.delivered?, Except.map, h.given]

theorem Reads.step (h : s.Reads name items ended given) {x : Step}
    (hx : x.reopens name = false) :
    (s.step x).2.Reads name items (ended || x.ends name (s.step x).1)
      (given ++ (x.delivered? name (s.step x).1).toList) := by
  by_cases hname : x.stream? = some name
  · cases x with
    | openStream name' q =>
      cases hname
      simp [Step.reopens] at hx
    | next name' =>
      cases hname
      exact h.next
    | drain name' =>
      cases hname
      have hclosed : (s.step (.drain name)).2.cursor? name = some .closed := by
        rw [step_eq, outcome, cursor?_onCursor h.cursor]
      simpa [Step.ends, Step.delivered?] using h.close hclosed
    | close name' =>
      cases hname
      have hclosed : (s.step (.close name)).2.cursor? name = some .closed := by
        rw [step_eq, outcome, cursor?_onCursor h.cursor]
      simpa [Step.ends, Step.delivered?] using h.close hclosed
    | scope name' take abort =>
      cases hname
      have hclosed : (s.step (.scope name take abort)).2.cursor? name = some .closed := by
        rw [step_eq, outcome, cursor?_onCursor h.cursor]
      simpa [Step.ends, Step.delivered?] using h.close hclosed
    | state name' =>
      cases hname
      have hsame : (s.step (.state name)).2.cursor? name = s.cursor? name := by
        rw [step_eq, outcome, cursor?_onCursor h.cursor, h.cursor]
      refine ⟨?_, ?_⟩
      · rw [hsame, h.cursor]
        simp [Step.ends, Step.delivered?]
      · simpa [Step.delivered?] using h.given
    | _ => cases hname
  · rw [Step.ends_of_stream?_ne hname, Step.delivered?_of_stream?_ne hname, Bool.or_false,
      Option.toList_none, List.append_nil]
    have hsame : (s.step x).2.cursor? name = s.cursor? name := by
      rw [cursor?, stream?_step hname, cursor?]
    exact ⟨hsame.trans h.cursor, h.given⟩

theorem Reads.run (h : s.Reads name items false []) {xs : List Step}
    (hxs : ∀ x ∈ xs, x.reopens name = false) :
    (s.run xs).2.Reads name items (s.hasEnded name xs) (s.delivered name xs) := by
  induction xs using List.reverseRecOn with
  | nil => exact h
  | append_singleton xs x ih =>
    rw [hasEnded_concat, delivered_concat, run_concat]
    apply Reads.step
    · apply ih
      intro y hy
      exact hxs y (List.mem_append_left _ hy)
    · exact hxs x (List.mem_append_right _ List.mem_cons_self)

theorem Reads.answer_next (h : s.Reads name items ended given) :
    (s.step (.next name)).1.answer =
      if ended then .ok .ended
      else (items[given.length]?.map (·.map .item)).getD (.ok .ended) := by
  rw [step_eq, outcome, answer_onCursor h.cursor]
  cases ended with
  | true => rfl
  | false =>
    rw [← List.head?_drop, if_neg Bool.false_ne_true, if_neg Bool.false_ne_true]
    cases items.drop given.length with
    | nil => rfl
    | cons row rest => cases row <;> rfl

theorem Reads.answer_drain (h : s.Reads name items ended given) :
    (s.step (.drain name)).1.answer =
      if ended then .ok (.items []) else (Stream.remaining (items.drop given.length)).map .items := by
  rw [step_eq, outcome, answer_onCursor h.cursor]
  cases ended <;> rfl

theorem replaceFirst_of_lookup {a : α} {es : List (String × α)} (h : es.lookup name = some a) :
    replaceFirst name a es = es := by
  induction es with
  | nil => rfl
  | cons e es ih =>
    by_cases he : e.1 = name
    · subst he
      rw [List.lookup_cons_self, Option.some.injEq] at h
      subst h
      simp [replaceFirst]
    · have hname : (name == e.1) = false := by simpa using fun heq => he heq.symm
      rw [List.lookup_cons, hname] at h
      rw [replaceFirst, if_neg he, ih h]

theorem Reads.step_close (h : s.Reads name items true given) :
    s.step (.close name) = (⟨.ok .done, []⟩, s) := by
  obtain ⟨t, ht, hcursor⟩ := Option.map_eq_some_iff.1 h.cursor
  obtain ⟨connection, cursor⟩ := t
  cases hcursor
  have hlookup : s.streams.lookup name = some ⟨connection, .closed⟩ := ht
  have hsame :
      (s.release ⟨connection, .closed⟩ .closed).setStream name ⟨connection, .closed⟩ = s := by
    rw [setStream, streams_release, replaceFirst_of_lookup hlookup]
    rfl
  rw [step_eq, outcome, onCursor_eq ht, hsame]
  rfl

/-- What a stream of these items answers, and has answered, when a run has been made since it was
opened: its items in order, then the failure to read one, or the end when there is none left, and
after that the end for ever. -/
structure GivesSnapshot (opened : Session) (name : String) (items : List (Except Failure Item))
    (xs : List Step) : Prop where
  given : (opened.delivered name xs).map .ok = items.take (opened.delivered name xs).length
  next : ((opened.run xs).2.step (.next name)).1.answer =
    if opened.hasEnded name xs then .ok .ended
    else (items[(opened.delivered name xs).length]?.map (·.map .item)).getD (.ok .ended)
  drain : ((opened.run xs).2.step (.drain name)).1.answer =
    if opened.hasEnded name xs then .ok (.items [])
    else (Stream.remaining (items.drop (opened.delivered name xs).length)).map .items
  close : opened.hasEnded name xs = true →
    (opened.run xs).2.step (.close name) = (⟨.ok .done, []⟩, (opened.run xs).2)

theorem givesSnapshot_of_cursor? (hcursor : s.cursor? name = some (.reading items))
    {xs : List Step} (hxs : ∀ x ∈ xs, x.reopens name = false) : s.GivesSnapshot name items xs := by
  have hreads : s.Reads name items false [] := ⟨hcursor, rfl⟩
  have h := hreads.run hxs
  refine ⟨h.given, h.answer_next, h.answer_drain, ?_⟩
  intro hended
  rw [hended] at h
  exact h.step_close

/-- Whatever is done after a stream was opened, to it, to other streams and to the database, it
gives what its query had at that moment. So does a stream of integers that are read in any way. -/
theorem stream_gives_snapshot (s : Session) (name : String) :
    (∀ q, (s.step (.openStream name q)).1.answer = .ok .done →
      ∃ items, q.snapshot s = .ok items ∧ q.Shows s.database items ∧
        ∀ xs, (∀ x ∈ xs, x.reopens name = false) →
          (s.step (.openStream name q)).2.GivesSnapshot name items xs) ∧
    ∀ (values : List Int) (read : Int → Except Failure Item) (xs : List Step),
      (∀ x ∈ xs, x.reopens name = false) →
        (s.openStream name (.ok values) read).2.GivesSnapshot name (values.map read) xs := by
  refine ⟨?_, ?_⟩
  · intro q hopen
    rw [step_eq] at hopen ⊢
    obtain ⟨items, hitems, hcursor⟩ := cursor?_starting hopen
    refine ⟨items, hitems, Query.shows_of_snapshot hitems, ?_⟩
    intro xs hxs
    exact givesSnapshot_of_cursor? hcursor hxs
  · intro values read xs hxs
    have hopened : (s.openStream name (.ok values) read).1.answer = .ok .done := by
      rw [openStream_ok]
    obtain ⟨items, hitems, hcursor⟩ := cursor?_openStream hopened
    cases hitems
    exact givesSnapshot_of_cursor? hcursor hxs

theorem stream_gives_snapshot_of_content_added :
    let a : Content := { id := .text "a", location := .text "/a" }
    let s := ((start .sqlite (.separate true)).run [.openStore .content, .addContent a]).2
    let opened := (s.step (.openStream "n" .contents)).2
    let xs : List Step := [.addContent { id := .text "b" }]
    ((opened.run xs).2.step (.next "n")).1.answer = .ok (.item (.content a)) ∧
      opened.GivesSnapshot "n" [.ok (.content a)] (xs ++ [.next "n"]) ∧
      ((opened.run (xs ++ [.next "n"])).2.step (.next "n")).1.answer = .ok .ended := by
  intro a s opened xs
  have hsnapshot : (Query.contents.snapshot s).toOption = some [.ok (.content a)] := by
    decide +kernel
  obtain ⟨items, hitems, -, h⟩ := (stream_gives_snapshot s "n").1 .contents rfl
  rw [hitems] at hsnapshot
  cases hsnapshot
  have hxs : ∀ x ∈ xs, x.reopens "n" = false := List.forall_mem_singleton.2 rfl
  have hboth : ∀ x ∈ xs ++ [.next "n"], x.reopens "n" = false :=
    List.forall_mem_append.2 ⟨hxs, List.forall_mem_singleton.2 rfl⟩
  have hfirst := (h xs hxs).next
  have hlast := (h _ hboth).next
  have hgoing : opened.hasEnded "n" xs = false ∧ (opened.delivered "n" xs).length = 0 := by
    decide +kernel
  have hgiven : opened.hasEnded "n" (xs ++ [.next "n"]) = false ∧
      (opened.delivered "n" (xs ++ [.next "n"])).length = 1 := by
    decide +kernel
  rw [hgoing.1, hgoing.2] at hfirst
  rw [hgiven.1, hgiven.2] at hlast
  exact ⟨hfirst, h _ hboth, hlast⟩

end Session

end RightsStore
