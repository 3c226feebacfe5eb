import RightsStore.Proofs.Comparison

namespace RightsStore

/-- Steps that neither go past the stores nor ask for the dialect or what it declares. -/
def Step.isStoreStep : Step → Bool
  | .prepare _ => false
  | .insertRaw .. => false
  | .columns _ => false
  | .dialect => false
  | _ => true

theorem lookup_map_prodMap (name : String) (f : α → β) (es : List (String × α)) :
    (es.map (Prod.map id f)).lookup name = (es.lookup name).map f := by
  induction es with
  | nil => rfl
  | cons e es ih =>
    rw [List.map_cons, List.lookup_cons, List.lookup_cons, ih]
    by_cases he : name == e.1 <;> simp [he]

theorem map_replaceFirst (name : String) (a : α) (f : α → β) (es : List (String × α)) :
    (replaceFirst name a es).map (Prod.map id f) =
      replaceFirst name (f a) (es.map (Prod.map id f)) := by
  induction es with
  | nil => rfl
  | cons e es ih =>
    by_cases he : e.1 = name
    · simp [replaceFirst, he]
    · simp [replaceFirst, he, ih]

namespace Comparison

structure Sessions (C : Comparison) (n : Nat) (s s' : Session) : Prop where
  dialect : s.dialect = C.left
  dialect' : s'.dialect = C.right
  wiring : s'.wiring = s.wiring
  counts : s'.counts = s.counts
  database : C.Databases n s.database s'.database
  pool : s'.pool = s.pool
  index : s'.index = s.index
  licenses : s'.licenses = s.licenses
  streams : s'.streams.map (Prod.map id (Stream.seen C.keys)) =
    s.streams.map (Prod.map id (Stream.seen C.keys))

structure Replies (C : Comparison) (r r' : Reply) : Prop where
  answer : r'.answer.map (Answer.seen C.keys) = r.answer.map (Answer.seen C.keys)
  log : C.right = C.left → r'.log = r.log

structure Results (C : Comparison) (n : Nat) (x x' : Reply × Session) : Prop where
  reply : C.Replies x.1 x'.1
  session : C.Sessions n x.2 x'.2

variable {C : Comparison} {n : Nat} {s s' : Session}

theorem Replies.same (r : Reply) : C.Replies r r := ⟨rfl, fun _ => rfl⟩

namespace Sessions

theorem less (h : C.Sessions (n + 1) s s') : C.Sessions n s s' :=
  { h with database := h.database.less }

theorem isOpen (h : C.Sessions n s s') (t : Table) : s'.isOpen t = s.isOpen t := by
  cases t with
  | content => exact h.index
  | license => exact h.licenses

theorem enforce (h : C.Sessions n s s') : s'.enforce = s.enforce := by
  rw [Session.enforce, Session.enforce, h.wiring]

theorem connections (h : C.Sessions n s s') : s'.connections = s.connections := by
  rw [Session.connections, Session.connections, h.pool]

theorem withDatabase (h : C.Sessions m s s') {db db' : Database} (hdb : C.Databases n db db') :
    C.Sessions n (s.withDatabase db) (s'.withDatabase db') :=
  { h with database := hdb }

theorem stream? (h : C.Sessions n s s') (name : String) :
    (s'.stream? name).map (Stream.seen C.keys) = (s.stream? name).map (Stream.seen C.keys) := by
  rw [Session.stream?, Session.stream?, ← lookup_map_prodMap, ← lookup_map_prodMap, h.streams]

end Sessions

def Reads (C : Comparison) (read : ρ → Except Failure Item) (rows rows' : List ρ) : Prop :=
  (Cursor.ofRows read rows').seen C.keys = (Cursor.ofRows read rows).seen C.keys

theorem Reads.contents {rows rows' : List ContentRow}
    (h : rows'.map (ContentRow.seen C.keys) = rows.map (ContentRow.seen C.keys)) :
    C.Reads contentItem rows rows' := by
  have hseen (rows : List ContentRow) : (Cursor.ofRows contentItem rows).seen C.keys =
      (Cursor.ofRows contentItem (rows.map (ContentRow.seen C.keys))).seen C.keys := by
    simp only [Cursor.ofRows, Cursor.seen, List.map_map, Cursor.reading.injEq]
    exact List.map_congr_left fun r _ => (r.item_seen C.keys).symm
  rw [Reads, hseen rows', h, ← hseen]

theorem Reads.same (read : ρ → Except Failure Item) (x : Except Failure (List ρ)) :
    SameOutcome (C.Reads read) x x := by
  cases x with
  | error f => exact .error f
  | ok rows => exact .ok rfl

namespace Results

theorem onStore (h : C.Sessions n s s') {t : Table} {x x' : Reply × Session}
    (hx : C.Results n x x') : C.Results n (s.onStore t x) (s'.onStore t x') := by
  rw [Session.onStore, Session.onStore, h.isOpen]
  split
  · exact hx
  · exact ⟨.same _, h⟩

theorem reading (h : C.Sessions n s s') {x x' : Except Failure Answer}
    (hx : x'.map (Answer.seen C.keys) = x.map (Answer.seen C.keys)) :
    C.Results n (s.reading x) (s'.reading x') :=
  ⟨⟨hx, fun _ => rfl⟩, h⟩

theorem writing (h : C.Sessions n s s') {x x' : Except Failure Database}
    (hx : SameOutcome (C.Databases n) x x') (e : Event) :
    C.Results n (s.writing x e) (s'.writing x' e) := by
  cases hx with
  | error f => exact ⟨.same _, h⟩
  | ok hdb => exact ⟨.same _, h.withDatabase hdb⟩

theorem rewriting (h : C.Sessions n s s') {x x' : Except Failure (Database × Nat)}
    (hx : SameOutcome (fun p p' => C.Databases n p.1 p'.1 ∧ p'.2 = p.2) x x') (e : Event) :
    C.Results n (s.rewriting x e) (s'.rewriting x' e) := by
  cases hx with
  | error f => exact ⟨.same _, h⟩
  | @ok p p' hp =>
    obtain ⟨db, n⟩ := p
    obtain ⟨db', n'⟩ := p'
    obtain ⟨hdb, hn⟩ := hp
    cases hn
    cases n with
    | zero => exact ⟨.same _, h.withDatabase hdb⟩
    | succ n => exact ⟨.same _, h.withDatabase hdb⟩

theorem listing (h : C.Sessions n s s') {read : ρ → Except Failure Item}
    {rows rows' : Except Failure (List ρ)} (hrows : SameOutcome (C.Reads read) rows rows')
    {answer : List Item → Except Failure Answer}
    (hanswer : ∀ items, (answer items).map (Answer.seen C.keys) =
      answer (items.map (Item.seen C.keys))) :
    C.Results n (s.listing rows read answer) (s'.listing rows' read answer) := by
  have hdrain (c : Cursor) : (c.drain.bind answer).map (Answer.seen C.keys) =
      (c.seen C.keys).drain.bind answer := by
    rw [Cursor.drain_seen]
    cases c.drain with
    | error f => rfl
    | ok items => exact hanswer items
  cases hrows with
  | error f => exact ⟨.same _, h⟩
  | ok hread =>
    refine ⟨⟨?_, fun _ => rfl⟩, h⟩
    exact (hdrain _).trans (hread ▸ (hdrain _).symm)

theorem openStream (h : C.Sessions n s s') (name : String) {read : ρ → Except Failure Item}
    {rows rows' : Except Failure (List ρ)} (hrows : SameOutcome (C.Reads read) rows rows') :
    C.Results n (s.openStream name rows read) (s'.openStream name rows' read) := by
  cases hrows with
  | error f =>
    rw [Session.openStream_error, Session.openStream_error]
    exact ⟨.same _, h⟩
  | ok hread =>
    rw [Session.openStream_ok, Session.openStream_ok, h.pool]
    refine ⟨.same _, { h with pool := rfl, streams := ?_ }⟩
    refine congrArg₂ List.cons (congrArg (Prod.mk name) ?_) h.streams
    exact congrArg (Stream.mk s.pool.free) hread

theorem onCursor (h : C.Sessions n s s') (name : String)
    {run : Cursor → Except Failure Answer × Cursor}
    (hrun : ∀ c, run (c.seen C.keys) =
      ((run c).1.map (Answer.seen C.keys), (run c).2.seen C.keys)) :
    C.Results n (s.onCursor name run) (s'.onCursor name run) := by
  have hstream := h.stream? name
  cases ht : s.stream? name with
  | none =>
    rw [ht] at hstream
    rw [Session.onCursor, Session.onCursor, ht, Option.map_eq_none_iff.1 hstream]
    exact ⟨.same _, h⟩
  | some t =>
    rw [ht] at hstream
    obtain ⟨t', ht', hseen⟩ := Option.map_eq_some_iff.1 hstream
    obtain ⟨hconnection, hcursor⟩ := Stream.mk.inj hseen
    have hboth := hrun t'.cursor
    rw [hcursor, hrun t.cursor] at hboth
    obtain ⟨hanswer, hnew⟩ := Prod.mk.inj hboth
    have hclosed : t'.cursor.isClosed = t.cursor.isClosed := by
      rw [← Cursor.isClosed_seen C.keys t'.cursor, hcursor, Cursor.isClosed_seen]
    have hnewClosed : (run t'.cursor).2.isClosed = (run t.cursor).2.isClosed := by
      rw [← Cursor.isClosed_seen C.keys (run t'.cursor).2, ← hnew, Cursor.isClosed_seen]
    rw [Session.onCursor_eq ht, Session.onCursor_eq ht']
    refine ⟨⟨hanswer.symm, fun _ => ?_⟩, ?_⟩
    · simp only [Session.closing, hclosed, hnewClosed]
    · have hreleased : C.Sessions n (s.release t (run t.cursor).2)
          (s'.release t' (run t'.cursor).2) := by
        rw [Session.release, Session.release, hclosed, hnewClosed, hconnection, h.pool]
        split
        · exact { h with pool := rfl }
        · exact h
      refine { hreleased with streams := ?_ }
      simp only [Session.setStream, Session.streams_release, map_replaceFirst, h.streams,
        Stream.seen, hconnection, hnew]

theorem starting (h : C.Sessions n s s') (name : String) (q : Query) :
    C.Results n (s.starting name q) (s'.starting name q) := by
  cases q with
  | contents =>
    exact onStore h (openStream h name (h.database.listContents.imp fun _ _ => Reads.contents))
  | licenses contentId size number =>
    refine onStore h (openStream h name ?_)
    rw [h.database.listLicenses]
    exact Reads.same _ _
  | allLicenses size number =>
    refine onStore h (openStream h name ?_)
    rw [h.database.listAllLicenses]
    exact Reads.same _ _
  | numbers values failOn =>
    rw [Session.starting, Session.starting]
    exact openStream h name (Reads.same _ _)
  | missing =>
    rw [Session.starting, Session.starting]
    exact openStream h name (Reads.same _ _)

theorem openTable (h : C.Sessions n s s') (t : Table) :
    C.Results n (s.openTable t) (s'.openTable t) := by
  obtain ⟨hrefusal, hlog, hdb⟩ := h.database.opened t
  rw [Session.openTable_eq, Session.openTable_eq, Session.opening, Session.opening, h.dialect,
    h.dialect', hrefusal]
  split
  · exact ⟨⟨rfl, hlog⟩, h.withDatabase hdb⟩
  · exact ⟨⟨rfl, hlog⟩, h.withDatabase hdb⟩

theorem handedOut (h : s'.counts = s.counts) (t : Table) : s'.handedOut t = s.handedOut t := by
  rw [Session.handedOut, Session.handedOut, h]

theorem containerIndex (h : C.Sessions n s s') (licenses : Bool) :
    C.Results n (s.containerIndex licenses) (s'.containerIndex licenses) := by
  have hopened := openTable h .content
  unfold Session.containerIndex
  generalize s.openTable .content = x, s'.openTable .content = x' at hopened ⊢
  obtain ⟨⟨answer, log⟩, t⟩ := x
  obtain ⟨⟨answer', log'⟩, t'⟩ := x'
  obtain ⟨⟨hanswer, hlog⟩, hsession⟩ := hopened
  dsimp only at hanswer
  cases SameOutcome.of_map_eq hanswer with
  | error f => exact ⟨⟨rfl, hlog⟩, hsession⟩
  | ok _ =>
    have hcounts := congrArg (StoreCount.add · .content) hsession.counts
    exact ⟨⟨congrArg (Except.map _) (handedOut hcounts .content), hlog⟩,
      { hsession with wiring := rfl, counts := hcounts }⟩

theorem containerLicenses (h : C.Sessions n s s') (index : Bool) :
    C.Results n (s.containerLicenses index) (s'.containerLicenses index) := by
  have hfirst : C.Results n
      (if index then (⟨s.handedOut .content, []⟩, s) else s.containerIndex false)
      (if index then (⟨s'.handedOut .content, []⟩, s') else s'.containerIndex false) := by
    cases index with
    | true => exact ⟨⟨congrArg (Except.map _) (handedOut h.counts .content), fun _ => rfl⟩, h⟩
    | false => exact containerIndex h false
  unfold Session.containerLicenses
  generalize (if index then (⟨s.handedOut .content, []⟩, s) else s.containerIndex false) = x,
    (if index then (⟨s'.handedOut .content, []⟩, s') else s'.containerIndex false) = x'
    at hfirst ⊢
  obtain ⟨⟨answer, log⟩, t⟩ := x
  obtain ⟨⟨answer', log'⟩, t'⟩ := x'
  obtain ⟨⟨hanswer, hlog⟩, hsession⟩ := hfirst
  dsimp only at hanswer hlog hsession ⊢
  cases SameOutcome.of_map_eq hanswer with
  | error f => exact ⟨⟨rfl, hlog⟩, hsession⟩
  | ok _ =>
    have hsecond := openTable hsession .license
    dsimp only
    generalize t.openTable .license = y, t'.openTable .license = y' at hsecond ⊢
    obtain ⟨⟨answer, log₂⟩, u⟩ := y
    obtain ⟨⟨answer', log₂'⟩, u'⟩ := y'
    obtain ⟨⟨hanswer, hlog₂⟩, hsession⟩ := hsecond
    have hlogs (hsame : C.right = C.left) : log' ++ log₂' = log ++ log₂ :=
      congrArg₂ (· ++ ·) (hlog hsame) (hlog₂ hsame)
    dsimp only at hanswer
    cases SameOutcome.of_map_eq hanswer with
    | error f => exact ⟨⟨rfl, hlogs⟩, hsession⟩
    | ok _ =>
      have hcounts := congrArg (StoreCount.add · .license) hsession.counts
      exact ⟨⟨congrArg (Except.map _) (handedOut hcounts .license), hlogs⟩,
        { hsession with wiring := rfl, counts := hcounts }⟩

theorem hand (t : Table) {x x' : Reply × Session} (h : C.Results n x x') :
    C.Results n (Session.hand t x) (Session.hand t x') := by
  obtain ⟨⟨answer, log⟩, s⟩ := x
  obtain ⟨⟨answer', log'⟩, s'⟩ := x'
  obtain ⟨⟨hanswer, hlog⟩, hsession⟩ := h
  dsimp only at hanswer hsession
  simp only [Session.hand, hsession.wiring]
  cases SameOutcome.of_map_eq hanswer with
  | error f => exact ⟨⟨rfl, hlog⟩, hsession⟩
  | ok ha =>
    have hreply : C.Replies ⟨.ok _, log⟩ ⟨.ok _, log'⟩ := ⟨congrArg Except.ok ha, hlog⟩
    dsimp only
    split
    · exact ⟨hreply, { hsession with index := rfl, wiring := rfl }⟩
    · exact ⟨hreply, { hsession with licenses := rfl, wiring := rfl }⟩
    · exact ⟨hreply, { hsession with index := rfl, licenses := rfl, wiring := rfl }⟩

theorem openStore (h : C.Sessions n s s') (t : Table) :
    C.Results n (s.openStore t) (s'.openStore t) := by
  unfold Session.openStore
  rw [h.wiring]
  apply hand
  split
  · exact openTable h _
  · exact ⟨⟨congrArg (Except.map _) (handedOut h.counts .content), fun _ => rfl⟩, h⟩
  · exact containerIndex h _
  · exact ⟨⟨congrArg (Except.map _) (handedOut h.counts .license), fun _ => rfl⟩, h⟩
  · exact containerLicenses h _

theorem answerItems_seen (k : Keys) (items : List Item) :
    (Session.answerItems items).map (Answer.seen k) =
      Session.answerItems (items.map (Item.seen k)) := rfl

theorem answerDump_seen {schema : Schema} (hschema : schema.HidesKey) (k : Keys)
    (items : List Item) : (Session.answerDump schema items).map (Answer.seen k) =
      Session.answerDump schema (items.map (Item.seen k)) := by
  have hdumps : schema.dumpMany ((items.map (Item.seen k)).map Item.document) =
      schema.dumpMany (items.map Item.document) := by
    rw [List.map_map]
    exact Schema.dumpMany_congr (fun i => Schema.dump_document_seen hschema k i) items
  rw [Session.answerDump, Session.answerDump, hdumps]
  cases schema.dumpMany (items.map Item.document) with
  | error u => rfl
  | ok d => rfl

theorem step_of_not_content (h : C.Sessions n s s') {x : Step} (hx : x.isStoreStep = true)
    (hcontent : x.content? = none) : C.Results n (s.step x) (s'.step x) := by
  have hdb := h.database
  have hcontents := hdb.listContents.imp fun _ _ => Reads.contents
  rw [Session.step_eq, Session.step_eq]
  cases x with
  | prepare f => cases hx
  | insertRaw table values => cases hx
  | columns table => cases hx
  | dialect => cases hx
  | addContent c => cases hcontent
  | updateContent c => cases hcontent
  | tables =>
    rw [Session.outcome, Session.outcome, hdb.tableNames]
    exact reading h rfl
  | openStore t => exact openStore h t
  | connections =>
    rw [Session.outcome, Session.outcome, h.connections]
    exact reading h rfl
  | getContent id =>
    have hget (x : Except Failure Content) : (x.map (.item ∘ .content)).map (Answer.seen C.keys) =
        (x.map (Content.seen C.keys)).map (.item ∘ .content) := by
      cases x <;> rfl
    refine onStore h (reading h ?_)
    rw [hget, hdb.getContent, ← hget]
  | listContents => exact onStore h (listing h hcontents (answerItems_seen _))
  | getLicense id =>
    rw [Session.outcome, Session.outcome, hdb.getLicense]
    exact onStore h (reading h rfl)
  | addLicense l =>
    rw [Session.outcome, Session.outcome, h.enforce]
    exact onStore h (writing h (hdb.addLicense s.enforce l) _)
  | updateLicense l clock =>
    rw [Session.outcome, Session.outcome, h.enforce]
    exact onStore h (writing h (hdb.updateLicense s.enforce l clock) _)
  | updateRights l clock => exact onStore h (rewriting h (hdb.updateRights l clock) _)
  | setStatus id status => exact onStore h (writing h (hdb.setStatus id status) _)
  | listLicenses contentId size number =>
    rw [Session.outcome, Session.outcome, hdb.listLicenses]
    exact onStore h (listing h (Reads.same _ _) (answerItems_seen _))
  | listAllLicenses size number =>
    rw [Session.outcome, Session.outcome, hdb.listAllLicenses]
    exact onStore h (listing h (Reads.same _ _) (answerItems_seen _))
  | dumpContents => exact onStore h (listing h hcontents (answerDump_seen Schema.hidesKey_content _))
  | dumpLicenses size number =>
    rw [Session.outcome, Session.outcome, hdb.listAllLicenses]
    exact onStore h (listing h (Reads.same _ _) (answerDump_seen Schema.hidesKey_licenseReport _))
  | openStream name q => exact starting h name q
  | next name =>
    rw [Session.outcome, Session.outcome]
    refine onCursor h name fun c => ?_
    rw [Cursor.next_seen]
    obtain ⟨answer, c'⟩ := c.next
    cases answer with
    | error f => rfl
    | ok item => cases item <;> rfl
  | drain name =>
    rw [Session.outcome, Session.outcome]
    refine onCursor h name fun c => ?_
    rw [Cursor.drain_seen]
    cases c.drain with
    | error f => rfl
    | ok items => rfl
  | close name =>
    rw [Session.outcome, Session.outcome]
    exact onCursor h name fun _ => rfl
  | scope name take abort =>
    rw [Session.outcome, Session.outcome]
    refine onCursor h name fun c => ?_
    rw [Cursor.within_seen]
    cases c.within take abort with
    | error f => rfl
    | ok items => rfl
  | state name =>
    rw [Session.outcome, Session.outcome, h.connections]
    refine onCursor h name fun c => ?_
    rw [Cursor.isClosed_seen]
    rfl
  | undescribed store f =>
    cases store with
    | none => exact reading h rfl
    | some t => exact onStore h (reading h rfl)

theorem step (h : C.Sessions (n + x.added?.toList.length) s s') (hx : x.isStoreStep = true)
    (hseen : x'.seen C.keys = x.seen C.keys) : C.Results n (s.step x) (s'.step x') := by
  cases hc : x.content? with
  | none =>
    rw [Step.added?_of_content?_eq_none hc] at h
    rw [Step.eq_of_seen hseen hc]
    exact step_of_not_content h hx hc
  | some _ =>
    cases x with
    | addContent c =>
      obtain ⟨c', rfl, hc⟩ := Step.exists_of_seen_addContent hseen
      have hadd := h.database.addContent hc
      rw [Session.step_eq, Session.step_eq, Session.outcome, Session.outcome,
        (Content.fields_of_seen hc).1]
      exact onStore h.less (writing h.less hadd _)
    | updateContent c =>
      obtain ⟨c', rfl, hc⟩ := Step.exists_of_seen_updateContent hseen
      have hupdate := h.database.updateContent hc
      rw [Session.step_eq, Session.step_eq, Session.outcome, Session.outcome,
        (Content.fields_of_seen hc).1]
      exact onStore h (writing h hupdate _)
    | _ => cases hc

end Results

/-- Two runs, when every two steps that look alike have results that correspond. -/
theorem run (allowed : Step → Prop)
    (step : ∀ n s s' x x', allowed x → C.Sessions (n + x.added?.toList.length) s s' →
      x'.seen C.keys = x.seen C.keys → C.Results n (s.step x) (s'.step x'))
    {xs xs' : List Step} (hxs : ∀ x ∈ xs, allowed x)
    (hseen : xs'.map (Step.seen C.keys) = xs.map (Step.seen C.keys))
    (h : C.Sessions (n + (added xs).length) s s') :
    List.Forall₂ C.Replies (s.run xs).1 (s'.run xs').1 ∧
      C.Sessions n (s.run xs).2 (s'.run xs').2 := by
  induction xs generalizing xs' s s' with
  | nil =>
    rw [List.map_nil, List.map_eq_nil_iff] at hseen
    rw [hseen]
    exact ⟨.nil, h⟩
  | cons x xs ih =>
    obtain ⟨x', xs', rfl, hx, hrest⟩ := List.map_eq_cons_iff.1 hseen
    rw [List.forall_mem_cons] at hxs
    have hroom : (added (x :: xs)).length = (added xs).length + x.added?.toList.length := by
      rw [added, List.filterMap_cons]
      cases x.added? <;> rfl
    rw [hroom, ← Nat.add_assoc] at h
    obtain ⟨hreply, hsession⟩ := step _ _ _ _ _ hxs.1 h hx
    obtain ⟨hreplies, hlast⟩ := ih hxs.2 hrest hsession
    exact ⟨.cons hreply hreplies, hlast⟩

theorem map_answer_of_replies (hkeys : C.keys = .shown) {rs rs' : List Reply}
    (h : List.Forall₂ C.Replies rs rs') : rs'.map Reply.answer = rs.map Reply.answer := by
  induction h with
  | nil => rfl
  | cons hr _ ih =>
    have hanswer := hr.answer
    rw [hkeys, map_answer_seen_shown, map_answer_seen_shown] at hanswer
    rw [List.map_cons, List.map_cons, hanswer, ih]

end Comparison

end RightsStore
