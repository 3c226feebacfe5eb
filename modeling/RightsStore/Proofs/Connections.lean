import Mathlib.Data.List.Nodup
import RightsStore.Proofs.FailedSteps
import RightsStore.Proofs.Snapshots

/-!
Connections: the streams that were opened and have not ended hold one each, nothing else holds any,
and each is given back once.
-/

namespace RightsStore

open Session

namespace Step

def opened? (x : Step) (r : Reply) : Option String :=
  match x, r.answer with
  | .openStream name _, .ok _ => some name
  | _, _ => none

/-- The streams that hold a connection after a step, by name: one that is opened does, until it
ends. -/
def holders (before : List String) (x : Step) (r : Reply) : List String :=
  (x.opened? r).toList ++ before.filter fun name => !x.ends name r

def returned (name : String) (x : Step) (r : Reply) : Nat :=
  if x.stream? = some name then r.log.count .streamClosed else 0

end Step

namespace Session

def opened (s : Session) (xs : List Step) : List String :=
  (s.transcript xs).filterMap fun p => p.1.opened? p.2

def holders (s : Session) (xs : List Step) : List String :=
  (s.transcript xs).foldl (fun before p => p.1.holders before p.2) []

def returned (s : Session) (name : String) (xs : List Step) : Nat :=
  (s.transcript xs).foldl (fun n p => n + p.1.returned name p.2) 0

theorem opened_concat (s : Session) (xs : List Step) (x : Step) :
    s.opened (xs ++ [x]) = s.opened xs ++ (x.opened? ((s.run xs).2.step x).1).toList := by
  rw [opened, transcript_concat, List.filterMap_append, opened]
  cases h : x.opened? ((s.run xs).2.step x).1 <;> simp [h]

theorem holders_concat (s : Session) (xs : List Step) (x : Step) :
    s.holders (xs ++ [x]) = x.holders (s.holders xs) ((s.run xs).2.step x).1 := by
  rw [holders, transcript_concat, List.foldl_append]
  rfl

theorem returned_concat (s : Session) (name : String) (xs : List Step) (x : Step) :
    s.returned name (xs ++ [x]) =
      s.returned name xs + x.returned name ((s.run xs).2.step x).1 := by
  rw [returned, transcript_concat, List.foldl_append]
  rfl

end Session

def unclosed (es : List (String × Stream)) : List (String × Stream) :=
  es.filter (!·.2.cursor.isClosed)

theorem unclosed_sublist (es : List (String × Stream)) :
    ((unclosed es).map (·.1)).Sublist (es.map (·.1)) :=
  List.filter_sublist.map _

theorem unclosed_append_cons (before after : List (String × Stream)) (name : String) (t : Stream) :
    unclosed (before ++ (name, t) :: after) =
      unclosed before ++ (if t.cursor.isClosed then [] else [(name, t)]) ++ unclosed after := by
  cases h : t.cursor.isClosed <;> simp [unclosed, h]

theorem exists_split_of_lookup {es : List (String × α)} {name : String} {a : α}
    (h : es.lookup name = some a) : ∃ before after, es = before ++ (name, a) :: after ∧
      ∀ b, replaceFirst name b es = before ++ (name, b) :: after := by
  obtain ⟨before, after, rfl, hbefore⟩ := List.lookup_eq_some_iff.1 h
  refine ⟨before, after, rfl, ?_⟩
  intro b
  clear h
  induction before with
  | nil => simp [replaceFirst]
  | cons e before ih =>
    rw [List.forall_mem_cons] at hbefore
    have hne : e.1 ≠ name := by
      rintro rfl
      simp at hbefore
    rw [List.cons_append, replaceFirst, if_neg hne, ih hbefore.2]
    rfl

theorem map_fst_replaceFirst (name : String) (a : α) (es : List (String × α)) :
    (replaceFirst name a es).map (·.1) = es.map (·.1) := by
  induction es with
  | nil => rfl
  | cons e es ih =>
    by_cases h : e.1 = name
    · simp [replaceFirst, h]
    · simp [replaceFirst, h, ih]

theorem replaceFirst_replaceFirst (name : String) (a b : α) (es : List (String × α)) :
    replaceFirst name b (replaceFirst name a es) = replaceFirst name b es := by
  induction es with
  | nil => rfl
  | cons e es ih =>
    by_cases he : e.1 = name
    · simp [replaceFirst, he]
    · simp [replaceFirst, he, ih]

section

variable {es : List (String × Stream)} {name : String} {t t' : Stream}

theorem exists_split_of_nodup (hnames : (es.map (·.1)).Nodup) (h : es.lookup name = some t) :
    ∃ before after, es = before ++ (name, t) :: after ∧
      (∀ t', replaceFirst name t' es = before ++ (name, t') :: after) ∧
      name ∉ (unclosed before).map (·.1) ∧ name ∉ (unclosed after).map (·.1) := by
  obtain ⟨before, after, rfl, hreplace⟩ := exists_split_of_lookup h
  rw [List.map_append, List.map_cons, List.nodup_middle, List.nodup_cons, List.mem_append,
    not_or] at hnames
  exact ⟨before, after, rfl, hreplace, fun hmem => hnames.1.1 ((unclosed_sublist before).mem hmem),
    fun hmem => hnames.1.2 ((unclosed_sublist after).mem hmem)⟩

theorem count_unclosed (hnames : (es.map (·.1)).Nodup) (h : es.lookup name = some t) :
    ((unclosed es).map (·.1)).count name = if t.cursor.isClosed then 0 else 1 := by
  obtain ⟨before, after, rfl, -, hbefore, hafter⟩ := exists_split_of_nodup hnames h
  rw [unclosed_append_cons, List.map_append, List.map_append, List.count_append,
    List.count_append, List.count_eq_zero.2 hbefore, List.count_eq_zero.2 hafter]
  split <;> simp

theorem names_replaceFirst_of_same (h : es.lookup name = some t)
    (hclosed : t'.cursor.isClosed = t.cursor.isClosed) :
    (unclosed (replaceFirst name t' es)).map (·.1) = (unclosed es).map (·.1) := by
  obtain ⟨before, after, rfl, hreplace⟩ := exists_split_of_lookup h
  rw [hreplace, unclosed_append_cons, unclosed_append_cons, hclosed]
  split <;> simp

theorem names_replaceFirst_closed (hnames : (es.map (·.1)).Nodup)
    (h : es.lookup name = some t) (hclosed : t'.cursor.isClosed = true) :
    (unclosed (replaceFirst name t' es)).map (·.1) =
      ((unclosed es).map (·.1)).filter (· ≠ name) := by
  obtain ⟨before, after, rfl, hreplace, hbefore, hafter⟩ := exists_split_of_nodup hnames h
  have hkept {names : List String} (hnames : name ∉ names) :
      names.filter (· ≠ name) = names := by
    rw [List.filter_eq_self]
    intro other hother
    simpa using ne_of_mem_of_not_mem hother hnames
  simp only [hreplace, unclosed_append_cons, hclosed, if_true, List.map_append,
    List.filter_append, hkept hbefore, hkept hafter]
  cases t.cursor.isClosed <;> simp

end

/-- The pool has lent one connection to each of the streams that are not closed, and has got back
none that was not lent. -/
structure Pool.Lends (p : Pool) (es : List (String × Stream)) : Prop where
  inUse : p.inUse = (unclosed es).map (·.2.connection)
  nodup : p.inUse.Nodup
  strays : p.strays = 0

namespace Pool

variable {p : Pool} {es : List (String × Stream)} {name : String} {t : Stream}

theorem lt_free {p : Pool} {n : Nat} (h : n ∈ p.inUse) : n < p.free := by
  obtain ⟨inUse, strays⟩ := p
  induction inUse with
  | nil => cases h
  | cons m ms ih =>
    simp only [free, List.foldr_cons] at ih ⊢
    rcases List.mem_cons.1 h with rfl | hmem
    · omega
    · have := ih hmem
      omega

theorem Lends.connect (h : p.Lends es) {c : Cursor} (hc : c.isClosed = false) (name : String) :
    p.connect.Lends ((name, ⟨p.free, c⟩) :: es) := by
  refine ⟨?_, ?_, h.strays⟩
  · simp [Pool.connect, unclosed, hc, h.inUse]
  · exact List.nodup_cons.2 ⟨fun hmem => Nat.lt_irrefl _ (lt_free hmem), h.nodup⟩

theorem Lends.giveBack (h : p.Lends es) (ht : es.lookup name = some t)
    (hopen : t.cursor.isClosed = false) :
    (p.giveBack t.connection).Lends (replaceFirst name ⟨t.connection, .closed⟩ es) := by
  obtain ⟨before, after, rfl, hreplace⟩ := exists_split_of_lookup ht
  have hinUse := h.inUse
  have hnodup := h.nodup
  rw [unclosed_append_cons, hopen, if_neg Bool.false_ne_true, List.map_append, List.map_append,
    List.map_singleton, List.append_assoc, List.singleton_append] at hinUse
  rw [hinUse, List.nodup_middle, List.nodup_cons, List.mem_append, not_or] at hnodup
  have hmem : t.connection ∈ p.inUse := by
    rw [hinUse]
    exact List.mem_append_right _ List.mem_cons_self
  have herase : p.inUse.erase t.connection =
      (unclosed before).map (·.2.connection) ++ (unclosed after).map (·.2.connection) := by
    rw [hinUse, List.erase_append_right _ hnodup.1.1, List.erase_cons_head]
  rw [Pool.giveBack, if_pos hmem, hreplace]
  refine ⟨?_, ?_, h.strays⟩
  · simp [herase, unclosed_append_cons]
  · rw [herase]
    exact hnodup.2

theorem Lends.of_same (h : p.Lends es) (ht : es.lookup name = some t) {c : Cursor}
    (hc : c.isClosed = t.cursor.isClosed) :
    p.Lends (replaceFirst name ⟨t.connection, c⟩ es) := by
  obtain ⟨before, after, rfl, hreplace⟩ := exists_split_of_lookup ht
  refine ⟨?_, h.nodup, h.strays⟩
  rw [hreplace, h.inUse, unclosed_append_cons, unclosed_append_cons, hc]
  split <;> simp

theorem Lends.inUse_eq (h : p.Lends es) (hnames : (es.map (·.1)).Nodup) :
    p.inUse = ((unclosed es).map (·.1)).filterMap fun name =>
      (es.lookup name).map (·.connection) := by
  rw [h.inUse, List.filterMap_map, ← List.filterMap_eq_map]
  apply List.filterMap_congr
  intro e he
  have hlookup := lookup_of_mem hnames (List.mem_of_mem_filter he)
  simp [hlookup]

end Pool

namespace Session

def moveTo (s : Session) (name : String) (t : Stream) (c : Cursor) : Session :=
  (s.release t c).setStream name ⟨t.connection, c⟩

variable {s : Session} {name : String} {t : Stream}

theorem streams_moveTo (c : Cursor) :
    (s.moveTo name t c).streams = replaceFirst name ⟨t.connection, c⟩ s.streams := by
  rw [moveTo, setStream, streams_release]

theorem moveTo_self (h : s.stream? name = some t) : s.moveTo name t t.cursor = s := by
  rw [moveTo, release, Bool.and_not_self, if_neg Bool.false_ne_true, setStream,
    replaceFirst_of_lookup h]

theorem moveTo_moveTo {c c' : Cursor} (h : t.cursor.isClosed = true → c.isClosed = true)
    (h' : c.isClosed = true → c'.isClosed = true) :
    (s.moveTo name t c).moveTo name ⟨t.connection, c⟩ c' = s.moveTo name t c' := by
  have hreplace := replaceFirst_replaceFirst name (⟨t.connection, c⟩ : Stream)
    ⟨t.connection, c'⟩ s.streams
  cases hc : c.isClosed with
  | false =>
    have hopen : t.cursor.isClosed = false := by
      rw [← Bool.not_eq_true]
      intro hclosed
      rw [h hclosed] at hc
      cases hc
    cases hc' : c'.isClosed <;> simp [moveTo, release, setStream, hc, hc', hopen, hreplace]
  | true =>
    cases ht : t.cursor.isClosed <;>
      simp [moveTo, release, setStream, hc, h' hc, ht, hreplace]

theorem lends_moveTo (h : s.pool.Lends s.streams) (ht : s.stream? name = some t) {c : Cursor}
    (hc : t.cursor.isClosed = true → c.isClosed = true) :
    (s.moveTo name t c).pool.Lends (s.moveTo name t c).streams := by
  rw [streams_moveTo]
  cases hopen : t.cursor.isClosed with
  | true =>
    have hpool : (s.moveTo name t c).pool = s.pool := by simp [moveTo, release, setStream, hopen]
    rw [hpool]
    exact h.of_same ht ((hc hopen).trans hopen.symm)
  | false =>
    cases hclosed : c.isClosed with
    | true =>
      have hpool : (s.moveTo name t c).pool = s.pool.giveBack t.connection := by
        simp [moveTo, release, setStream, hopen, hclosed]
      rw [hpool, Cursor.eq_closed hclosed]
      exact h.giveBack ht hopen
    | false =>
      have hpool : (s.moveTo name t c).pool = s.pool := by
        simp [moveTo, release, setStream, hclosed]
      rw [hpool]
      exact h.of_same ht (hclosed.trans hopen.symm)

end Session

namespace Step

/-- What a step on the stream of a name does to the streams and the connections: it is refused, it
opens the stream, or it reads from it, which closes it or leaves it as open as it was. -/
inductive StreamEffect (name : String) (x : Step) (r : Reply) (s : Session) : Session → Prop
  | refused : x.opened? r = none → r.log = [] → (x.ends name r = true → s.stream? name = none) →
      StreamEffect name x r s s
  | opened : x.opened? r = some name → r.log = [] → x.ends name r = false →
      StreamEffect name x r s { s with
        pool := s.pool.connect
        streams := (name, ⟨s.pool.free, .reading items⟩) :: s.streams }
  | read : x.opened? r = none → s.stream? name = some t → r.log = closing t.cursor c →
      c.isClosed = (t.cursor.isClosed || x.ends name r) →
      StreamEffect name x r s (s.moveTo name t c)

theorem ends_of_ne {x : Step} {name other : String} (h : x.stream? = some name)
    (hne : other ≠ name) (r : Reply) : x.ends other r = false := by
  apply ends_of_stream?_ne
  rw [h, ne_eq, Option.some.injEq]
  exact hne.symm

theorem filter_ends {x : Step} {name : String} (hx : x.stream? = some name) (r : Reply)
    (names : List String) :
    names.filter (fun other => !x.ends other r) =
      if x.ends name r then names.filter (· ≠ name) else names := by
  cases hends : x.ends name r with
  | true =>
    apply List.filter_congr
    intro other _
    by_cases hother : other = name
    · simp [hother, hends]
    · simp [hother, ends_of_ne hx hother]
  | false =>
    rw [if_neg Bool.false_ne_true, List.filter_eq_self]
    intro other _
    by_cases hother : other = name
    · simp [hother, hends]
    · simp [ends_of_ne hx hother]

end Step

namespace Session

variable {s : Session} {name : String}

theorem streamEffect_openStream {q : Query} (rows : Except Failure (List ρ))
    (read : ρ → Except Failure Item) :
    (Step.openStream name q).StreamEffect name (s.openStream name rows read).1 s
      (s.openStream name rows read).2 := by
  cases rows with
  | error f =>
    rw [openStream_error]
    exact .refused rfl rfl nofun
  | ok rows =>
    rw [openStream_ok]
    exact .opened rfl rfl rfl

theorem streamEffect_onStore {q : Query} {t : Table} {run : Reply × Session}
    (h : (Step.openStream name q).StreamEffect name run.1 s run.2) :
    (Step.openStream name q).StreamEffect name (s.onStore t run).1 s (s.onStore t run).2 := by
  rw [onStore]
  split
  · exact h
  · exact .refused rfl rfl fun hends => absurd hends Bool.false_ne_true

theorem streamEffect_starting (q : Query) :
    (Step.openStream name q).StreamEffect name (s.starting name q).1 s (s.starting name q).2 := by
  cases q with
  | contents => exact streamEffect_onStore (streamEffect_openStream ..)
  | licenses contentId size number => exact streamEffect_onStore (streamEffect_openStream ..)
  | allLicenses size number => exact streamEffect_onStore (streamEffect_openStream ..)
  | numbers values failOn => exact streamEffect_openStream (.ok values) (numberItem failOn)
  | missing => exact streamEffect_openStream (.error _) (numberItem .null)

theorem streamEffect_onCursor {x : Step} {run : Cursor → Except Failure Answer × Cursor}
    (hopened : ∀ r, x.opened? r = none)
    (hrun : ∀ c log, (run c).2.isClosed = (c.isClosed || x.ends name ⟨(run c).1, log⟩)) :
    x.StreamEffect name (s.onCursor name run).1 s (s.onCursor name run).2 := by
  rw [onCursor]
  split
  · rename_i hnone
    exact .refused (hopened _) rfl fun _ => hnone
  · rename_i t hsome
    exact .read (hopened _) hsome rfl (hrun t.cursor _)

theorem streamEffect_step {x : Step} (h : x.stream? = some name) :
    x.StreamEffect name (s.step x).1 s (s.step x).2 := by
  rw [step_eq]
  cases x with
  | openStream name' q =>
    cases h
    exact streamEffect_starting q
  | next name' =>
    cases h
    refine streamEffect_onCursor (fun _ => rfl) ?_
    intro c log
    -- the end and a failure close, an item does not
    match c with
    | .closed => simp [Step.ends, Except.map, answerNext]
    | .reading [] => simp [Step.ends, Except.map, answerNext]
    | .reading (.ok a :: rest) => simp [Step.ends, Except.map, answerNext]
    | .reading (.error f :: rest) => simp [Step.ends, Except.map]
  | drain name' =>
    cases h
    refine streamEffect_onCursor (fun _ => rfl) ?_
    intro c log
    simp [Step.ends]
  | close name' =>
    cases h
    refine streamEffect_onCursor (fun _ => rfl) ?_
    intro c log
    simp [Step.ends]
  | scope name' take abort =>
    cases h
    refine streamEffect_onCursor (fun _ => rfl) ?_
    intro c log
    simp [Step.ends]
  | state name' =>
    cases h
    refine streamEffect_onCursor (fun _ => rfl) ?_
    intro c log
    simp [Step.ends]
  | _ => cases h

theorem streams_and_pool_step {x : Step} (h : x.stream? = none) :
    (s.step x).2.streams = s.streams ∧ (s.step x).2.pool = s.pool := by
  cases hopening : x.isOpening with
  | true =>
    cases x with
    | openStore t =>
      have hopens := s.opens_openStore t
      rw [step_eq]
      exact ⟨hopens.streams, hopens.pool⟩
    | _ => cases hopening
  | false =>
    obtain ⟨db, hdb⟩ := onlyDatabase_step (s := s) hopening h
    rw [hdb]
    exact ⟨rfl, rfl⟩

theorem lends_step (h : s.pool.Lends s.streams) (x : Step) :
    (s.step x).2.pool.Lends (s.step x).2.streams := by
  cases hx : x.stream? with
  | none =>
    obtain ⟨hstreams, hpool⟩ := streams_and_pool_step (s := s) hx
    rw [hstreams, hpool]
    exact h
  | some name =>
    have heffect := streamEffect_step (s := s) hx
    generalize s.step x = run at heffect ⊢
    obtain ⟨reply, s'⟩ := run
    cases heffect with
    | refused hopened hlog hends => exact h
    | opened hopened hlog hends => exact h.connect rfl name
    | read hopened hsome hlog hclosed =>
      refine lends_moveTo h hsome ?_
      intro hended
      rw [hclosed, hended, Bool.true_or]

end Session

theorem count_closing (c c' : Cursor) :
    (closing c c').count .streamClosed = if c'.isClosed && !c.isClosed then 1 else 0 := by
  rw [closing]
  split <;> rfl

/-- The books of a session: its streams are those that were opened, those that are not closed are
the holders, and of each name as many connections were taken as are held or were given back. -/
structure Accounted (s : Session) (opened holders : List String) (returned : String → Nat) :
    Prop where
  names : s.streams.map (·.1) = opened.reverse
  holding : (unclosed s.streams).map (·.1) = holders
  lends : s.pool.Lends s.streams
  balance : ∀ name, opened.count name = returned name + holders.count name

namespace Accounted

variable {s s' : Session} {opened holders : List String}
  {returned : String → Nat} {name : String} {x : Step}

theorem nodup (h : Accounted s opened holders returned) (hnames : opened.Nodup) :
    (s.streams.map (·.1)).Nodup := by
  rw [h.names]
  exact List.nodup_reverse.2 hnames

theorem mem_holders_iff {t : Stream} (h : Accounted s opened holders returned)
    (hnames : opened.Nodup) (ht : s.stream? name = some t) :
    name ∈ holders ↔ t.cursor.isClosed = false := by
  have hcount := count_unclosed (h.nodup hnames) ht
  rw [← h.holding, ← List.count_pos_iff, hcount]
  cases t.cursor.isClosed <;> decide

theorem connections (h : Accounted s opened holders returned) :
    s.connections = holders.length := by
  rw [Session.connections, h.lends.inUse, ← h.holding, List.length_map, List.length_map]

theorem unaffected {r : Reply} (h : Accounted s opened holders returned)
    (hstreams : s'.streams = s.streams) (hlends : s'.pool.Lends s'.streams)
    (hopened : x.opened? r = none) (hholders : x.holders holders r = holders)
    (hreturned : ∀ name, x.returned name r = 0) :
    Accounted s' (opened ++ (x.opened? r).toList) (x.holders holders r)
      fun name => returned name + x.returned name r := by
  rw [hopened, hholders, Option.toList_none, List.append_nil]
  refine ⟨?_, ?_, hlends, ?_⟩
  · rw [hstreams, h.names]
  · rw [hstreams, h.holding]
  · intro name
    rw [hreturned, Nat.add_zero]
    exact h.balance name

theorem effect {r : Reply} (h : Accounted s opened holders returned)
    (hx : x.stream? = some name) (hnames : opened.Nodup) (he : x.StreamEffect name r s s')
    (hlends : s'.pool.Lends s'.streams) :
    Accounted s' (opened ++ (x.opened? r).toList) (x.holders holders r)
      fun name => returned name + x.returned name r := by
  have hkeys := h.nodup hnames
  have hsilent (hlog : r.log = []) (other : String) : x.returned other r = 0 := by
    rw [Step.returned, hlog]
    split <;> rfl
  cases he with
  | refused hopened hlog hends =>
    refine h.unaffected rfl hlends hopened ?_ (hsilent hlog)
    rw [Step.holders, hopened, Step.filter_ends hx, Option.toList_none, List.nil_append]
    split
    · rename_i hended
      rw [List.filter_eq_self]
      intro other hother
      have hkey : other ∈ s.streams.map (·.1) :=
        (unclosed_sublist s.streams).mem (h.holding ▸ hother)
      have hnone : name ∉ s.streams.map (·.1) := lookup_eq_none_iff_not_mem.1 (hends hended)
      simpa using ne_of_mem_of_not_mem hkey hnone
    · rfl
  | opened hopened hlog hends =>
    rw [Step.holders, hopened, Step.filter_ends hx, hends, if_neg Bool.false_ne_true]
    refine ⟨?_, ?_, hlends, ?_⟩
    · simp [h.names]
    · rw [← h.holding]
      simp [unclosed]
    · intro other
      have := h.balance other
      rw [hsilent hlog]
      simp only [Option.toList_some, List.count_append, List.singleton_append, List.count_cons,
        List.count_nil]
      omega
  | read hopened hlookup hlog hclosed =>
    rename_i t c
    have hcount := count_unclosed hkeys hlookup
    rw [h.holding] at hcount
    rw [Step.holders, hopened, Step.filter_ends hx, Option.toList_none, List.append_nil,
      List.nil_append]
    refine ⟨?_, ?_, hlends, ?_⟩
    · rw [Session.streams_moveTo, map_fst_replaceFirst, h.names]
    · rw [Session.streams_moveTo]
      cases hends : x.ends name r with
      | true =>
        rw [hends, Bool.or_true] at hclosed
        rw [if_pos rfl, ← h.holding]
        exact names_replaceFirst_closed hkeys hlookup hclosed
      | false =>
        rw [hends, Bool.or_false] at hclosed
        exact (names_replaceFirst_of_same hlookup hclosed).trans h.holding
    · intro other
      have hbalance := h.balance other
      by_cases hother : other = name
      · -- the holder of a stream that was open and has ended gives back what it held
        subst hother
        rw [hcount] at hbalance
        have hgone : (holders.filter (· ≠ other)).count other = 0 :=
          List.count_eq_zero.2 (by simp)
        rw [Step.returned, if_pos hx, hlog, count_closing, hclosed, hbalance]
        cases hends : x.ends other r with
        | true => cases t.cursor.isClosed <;> simpa using hgone
        | false => cases ht : t.cursor.isClosed <;> simp [ht, hcount]
      · have hzero : x.returned other r = 0 := by
          rw [Step.returned, if_neg]
          rw [hx, Option.some.injEq]
          exact Ne.symm hother
        rw [hzero, Nat.add_zero, hbalance]
        split
        · rw [List.count_filter (by simpa using hother)]
        · rfl

end Accounted

namespace Session

variable {s : Session} {name : String}

theorem accounted_step {opened holders : List String} {returned : String → Nat}
    (h : Accounted s opened holders returned) (hnames : opened.Nodup) (x : Step) :
    Accounted (s.step x).2 (opened ++ (x.opened? (s.step x).1).toList)
      (x.holders holders (s.step x).1) fun name => returned name + x.returned name (s.step x).1 := by
  have hlends := lends_step h.lends x
  cases hx : x.stream? with
  | some name => exact h.effect hx hnames (streamEffect_step hx) hlends
  | none =>
    have hopened : x.opened? (s.step x).1 = none := by
      cases x with
      | openStream name q => cases hx
      | _ => rfl
    refine h.unaffected (streams_and_pool_step hx).1 hlends hopened ?_ ?_
    · rw [Step.holders, hopened, Option.toList_none, List.nil_append, List.filter_eq_self]
      intro name _
      rw [Step.ends_of_stream?_ne (by rw [hx]; nofun)]
      rfl
    · intro name
      rw [Step.returned, if_neg (by rw [hx]; nofun)]

theorem accounted_run {xs : List Step} (hstreams : s.streams = []) (hpool : s.pool = {})
    (hnames : (s.opened xs).Nodup) :
    Accounted (s.run xs).2 (s.opened xs) (s.holders xs) fun name => s.returned name xs := by
  induction xs using List.reverseRecOn with
  | nil =>
    rw [run_nil]
    refine ⟨?_, ?_, ⟨?_, ?_, ?_⟩, fun name => rfl⟩
    · rw [hstreams]
      rfl
    · rw [hstreams]
      rfl
    · rw [hstreams, hpool]
      rfl
    · rw [hpool]
      exact List.nodup_nil
    · rw [hpool]
  | append_singleton xs x ih =>
    rw [opened_concat] at hnames
    have hbefore := List.Nodup.of_append_left hnames
    simp only [opened_concat, holders_concat, returned_concat, run_concat]
    exact accounted_step (ih hbefore) hbefore x

end Session

namespace Cursor

def after : (n : Nat) → Cursor → Cursor
  | 0, c => c
  | n + 1, c => after n c.next.2

@[simp] theorem after_closed (n : Nat) : after n closed = closed := by
  induction n with
  | zero => rfl
  | succ n ih => exact ih

theorem after_length (rest : List (Except Failure Item)) :
    after (rest.length + 1) (reading rest) = closed := by
  induction rest with
  | nil => rfl
  | cons row rest ih =>
    cases row with
    | ok a => exact ih
    | error f => exact after_closed _

theorem isClosed_after {c : Cursor} (h : c.isClosed = true) (n : Nat) :
    (after n c).isClosed = true := by
  rw [eq_closed h, after_closed]
  rfl

end Cursor

namespace Session

variable {s : Session} {name : String}

theorem closing_append {c c' c'' : Cursor} (h : c.isClosed = true → c'.isClosed = true)
    (h' : c'.isClosed = true → c''.isClosed = true) :
    closing c c' ++ closing c' c'' = closing c c'' := by
  cases hc : c.isClosed <;> cases hc' : c'.isClosed <;> cases hc'' : c''.isClosed <;>
    simp_all [closing]

theorem stream?_moveTo {t : Stream} (h : s.stream? name = some t) (c : Cursor) :
    (s.moveTo name t c).stream? name = some ⟨t.connection, c⟩ :=
  stream?_setStream h c _

theorem run_nexts {t : Stream} (h : s.stream? name = some t) (n : Nat) :
    (s.run (List.replicate n (.next name))).2 = s.moveTo name t (t.cursor.after n) ∧
      (s.run (List.replicate n (.next name))).1.flatMap Reply.log =
        closing t.cursor (t.cursor.after n) := by
  induction n generalizing s t with
  | zero =>
    refine ⟨(moveTo_self h).symm, ?_⟩
    cases ht : t.cursor.isClosed <;> simp [closing, Cursor.after, ht]
  | succ n ih =>
    have hstep : s.step (.next name) =
        (⟨t.cursor.next.1.map answerNext, closing t.cursor t.cursor.next.2⟩,
          s.moveTo name t t.cursor.next.2) := by
      rw [step_eq]
      exact onCursor_eq h fun c => (c.next.1.map answerNext, c.next.2)
    have hclosed : t.cursor.next.2.isClosed = true → (t.cursor.after (n + 1)).isClosed = true :=
      fun hclosed => Cursor.isClosed_after hclosed n
    obtain ⟨hrun, hlog⟩ := ih (stream?_moveTo h t.cursor.next.2)
    rw [List.replicate_succ, run_cons, hstep]
    refine ⟨?_, ?_⟩
    · rw [hrun]
      exact moveTo_moveTo Cursor.isClosed_next hclosed
    · rw [List.flatMap_cons, hlog]
      exact closing_append Cursor.isClosed_next hclosed

theorem step_of_missing (h : s.stream? name = none) {x : Step} (hx : x.stream? = some name)
    (hreopens : x.reopens name = false) : s.step x = (⟨.error (.unknownName name), []⟩, s) := by
  have hcursor (run : Cursor → Except Failure Answer × Cursor) :
      s.onCursor name run = (⟨.error (.unknownName name), []⟩, s) := by
    rw [onCursor, h]
  rw [step_eq]
  cases x with
  | openStream name' q =>
    cases hx
    simp [Step.reopens] at hreopens
  | next name' => cases hx; rw [outcome, hcursor]
  | drain name' => cases hx; rw [outcome, hcursor]
  | close name' => cases hx; rw [outcome, hcursor]
  | scope name' take abort => cases hx; rw [outcome, hcursor]
  | state name' => cases hx; rw [outcome, hcursor]
  | _ => cases hx

theorem run_of_missing (h : s.stream? name = none) {xs : List Step}
    (hxs : ∀ x ∈ xs, x.stream? = some name ∧ x.reopens name = false) :
    (s.run xs).2 = s ∧ (s.run xs).1.flatMap Reply.log = [] := by
  induction xs with
  | nil => exact ⟨rfl, rfl⟩
  | cons x xs ih =>
    rw [List.forall_mem_cons] at hxs
    obtain ⟨hrun, hlog⟩ := ih hxs.2
    rw [run_cons, step_of_missing h hxs.1.1 hxs.1.2, hrun, List.flatMap_cons, hlog]
    exact ⟨rfl, rfl⟩

theorem pool_step_of_closed {t : Stream} (ht : s.stream? name = some t)
    (hclosed : t.cursor.isClosed = true) {x : Step} (hx : x.stream? = some name)
    (hreopens : x.reopens name = false) : (s.step x).2.pool = s.pool := by
  have hrelease (c : Cursor) : s.release t c = s := by
    rw [release, hclosed, Bool.not_true, Bool.and_false, if_neg Bool.false_ne_true]
  have hcursor (run : Cursor → Except Failure Answer × Cursor) :
      (s.onCursor name run).2.pool = s.pool := by
    rw [onCursor_eq ht, hrelease]
    rfl
  rw [step_eq]
  cases x with
  | openStream name' q =>
    cases hx
    simp [Step.reopens] at hreopens
  | next name' => cases hx; rw [outcome, hcursor]
  | drain name' => cases hx; rw [outcome, hcursor]
  | close name' => cases hx; rw [outcome, hcursor]
  | scope name' take abort => cases hx; rw [outcome, hcursor]
  | state name' => cases hx; rw [outcome, hcursor]
  | _ => cases hx

/-- A step does to the session, and gives back, what other steps do one after the other. -/
structure Unfolds (s : Session) (x : Step) (ys : List Step) : Prop where
  session : (s.step x).2 = (s.run ys).2
  log : (s.step x).1.log = (s.run ys).1.flatMap Reply.log

theorem unfolds_scope (s : Session) (name : String) (take : Nat) (abort : Option String) :
    s.Unfolds (.scope name take abort) (List.replicate take (.next name) ++ [.close name]) := by
  cases h : s.stream? name with
  | none =>
    have hxs : ∀ x ∈ List.replicate take (Step.next name) ++ [Step.close name],
        x.stream? = some name ∧ x.reopens name = false := by
      intro x hx
      rcases List.mem_append.1 hx with hx | hx
      · rw [List.eq_of_mem_replicate hx]
        exact ⟨rfl, rfl⟩
      · rw [List.mem_singleton.1 hx]
        exact ⟨rfl, rfl⟩
    obtain ⟨hrun, hlog⟩ := run_of_missing h hxs
    refine ⟨?_, ?_⟩
    · rw [step_of_missing h rfl rfl, hrun]
    · rw [step_of_missing h rfl rfl, hlog]
  | some t =>
    obtain ⟨hrun, hlog⟩ := run_nexts h take
    have hscope : s.step (.scope name take abort) =
        (⟨(t.cursor.within take abort).map .taken, closing t.cursor .closed⟩,
          s.moveTo name t .closed) := by
      rw [step_eq]
      exact onCursor_eq h fun c => ((c.within take abort).map .taken, .closed)
    have hclose : (s.moveTo name t (t.cursor.after take)).step (.close name) =
        (⟨.ok .done, closing (t.cursor.after take) .closed⟩,
          (s.moveTo name t (t.cursor.after take)).moveTo name
            ⟨t.connection, t.cursor.after take⟩ .closed) := by
      rw [step_eq]
      exact onCursor_eq (stream?_moveTo h _) fun _ => (.ok .done, .closed)
    have honce : closing t.cursor (t.cursor.after take) ++ closing (t.cursor.after take) .closed =
        closing t.cursor .closed :=
      closing_append (fun hclosed => Cursor.isClosed_after hclosed take) fun _ => rfl
    have hmoved : (s.moveTo name t (t.cursor.after take)).moveTo name
        ⟨t.connection, t.cursor.after take⟩ .closed = s.moveTo name t .closed :=
      moveTo_moveTo (fun hclosed => Cursor.isClosed_after hclosed take) fun _ => rfl
    refine ⟨?_, ?_⟩
    · rw [run_append, run_cons, hrun, hclose, hscope]
      exact hmoved.symm
    · rw [run_append, run_cons, hrun, hclose, hscope, List.flatMap_append, hlog]
      simpa using honce.symm

theorem unfolds_drain (s : Session) (name : String) :
    ∃ n, s.Unfolds (.drain name) (List.replicate n (.next name)) := by
  cases h : s.stream? name with
  | none =>
    refine ⟨0, ?_, ?_⟩
    · rw [step_of_missing h rfl rfl]
      rfl
    · rw [step_of_missing h rfl rfl]
      rfl
  | some t =>
    have hdrain : s.step (.drain name) =
        (⟨t.cursor.drain.map .items, closing t.cursor .closed⟩, s.moveTo name t .closed) := by
      rw [step_eq]
      exact onCursor_eq h fun c => (c.drain.map .items, .closed)
    have hend : ∃ n, t.cursor.after n = .closed := by
      cases t.cursor with
      | closed => exact ⟨0, rfl⟩
      | reading rest => exact ⟨_, Cursor.after_length rest⟩
    obtain ⟨n, hn⟩ := hend
    obtain ⟨hrun, hlog⟩ := run_nexts h n
    rw [hn] at hrun hlog
    refine ⟨n, ?_, ?_⟩
    · rw [hdrain, hrun]
    · rw [hdrain, hlog]

/-- In every session the connections in use are those of the streams that were opened and have not
ended, one each and no two the same, and none has ever been given back that was not in use. A
stream is closed exactly when it holds none; it has given its own back exactly then, and once, and
whatever is done to it after that changes nothing in the pool. A block and a reading to the end
give back what the single steps do that they are made of. Whatever is no step on a stream, and an
opening that fails, leave the pool as it is. -/
theorem connections_accounted (d : Dialect) (w : Wiring) (draws : Draws) {xs : List Step}
    (hnames : ((start d w draws).opened xs).Nodup) :
    let s := ((start d w draws).run xs).2
    let holders := (start d w draws).holders xs
    s.connections = holders.length ∧
      (s.pool.inUse = holders.filterMap (fun name => (s.stream? name).map (·.connection)) ∧
        s.pool.inUse.Nodup ∧ s.pool.strays = 0) ∧
      (∀ name ∈ (start d w draws).opened xs,
        (s.step (.state name)).1.answer = .ok (.state (name ∉ holders) holders.length) ∧
          (start d w draws).returned name xs = (if name ∈ holders then 0 else 1) ∧
          (name ∉ holders → ∀ x : Step, x.stream? = some name → x.reopens name = false →
            (s.step x).2.pool = s.pool)) ∧
      (∀ x, (x.stream? = none ∨ ∃ name q f, x = .openStream name q ∧
          (s.step x).1.answer = .error f) → (s.step x).2.pool = s.pool) ∧
      ∀ name, (∀ take abort,
          s.Unfolds (.scope name take abort) (List.replicate take (.next name) ++ [.close name])) ∧
        ∃ n, s.Unfolds (.drain name) (List.replicate n (.next name)) := by
  intro s holders
  have haccounted : Accounted s ((start d w draws).opened xs) holders
      fun name => (start d w draws).returned name xs := accounted_run rfl rfl hnames
  have hkeys := haccounted.nodup hnames
  have hcount := haccounted.connections
  refine ⟨hcount, ⟨?_, haccounted.lends.nodup, haccounted.lends.strays⟩, ?_, ?_, ?_⟩
  · rw [haccounted.lends.inUse_eq hkeys, haccounted.holding]
    rfl
  · intro name hname
    have hbalance := haccounted.balance name
    have hnodup : holders.Nodup := by
      rw [← haccounted.holding]
      exact (unclosed_sublist _).nodup hkeys
    rw [List.count_eq_one_of_mem hnames hname, hnodup.count] at hbalance
    have hkey : name ∈ s.streams.map (·.1) := by
      rw [haccounted.names]
      exact List.mem_reverse.2 hname
    have hreturned : (start d w draws).returned name xs = if name ∈ holders then 0 else 1 := by
      split at hbalance <;> simp_all
    cases ht : s.stream? name with
    | none => exact absurd hkey (lookup_eq_none_iff_not_mem.1 ht)
    | some t =>
      have hholds := haccounted.mem_holders_iff hnames ht
      have hclosed : decide (name ∉ holders) = t.cursor.isClosed := by
        simp only [hholds]
        cases t.cursor.isClosed <;> rfl
      refine ⟨?_, hreturned, ?_⟩
      · rw [step_eq, outcome, onCursor_eq ht, hcount, hclosed]
      · intro hended x hx hreopens
        rw [hholds, Bool.not_eq_false] at hended
        exact pool_step_of_closed ht hended hx hreopens
  · rintro x (hnone | ⟨name, q, f, rfl, hfail⟩)
    · exact (streams_and_pool_step hnone).2
    · rw [step_eq] at hfail ⊢
      have huntouched := ((untouchedByFailure_starting name q).untouched f hfail).1
      exact congrArg pool huntouched
  · intro name
    exact ⟨s.unfolds_scope name, s.unfolds_drain name⟩

theorem connections_of_failed_stream :
    let s := start .sqlite (.separate true)
    let xs : List Step := [
      .openStream "m" (.numbers [1, 2] .null), .openStream "n" (.numbers [3] (.int 3)),
      .next "n", .next "n", .close "n", .next "m"]
    (s.opened xs).Nodup ∧ (s.run xs).2.connections = 1 ∧ (s.run xs).2.pool.strays = 0 ∧
      s.returned "n" xs = 1 := by
  intro s xs
  have hnames : (s.opened xs).Nodup := by decide +kernel
  obtain ⟨hcount, ⟨-, -, hstrays⟩, hstreams, -⟩ :=
    connections_accounted .sqlite (.separate true) {} hnames
  have hheld : (s.holders xs).length = 1 := by decide +kernel
  have hreturned := (hstreams "n" (by decide +kernel)).2.1
  have hended : "n" ∉ s.holders xs := by decide +kernel
  exact ⟨hnames, hcount.trans hheld, hstrays, hreturned.trans (if_neg hended)⟩

end Session

end RightsStore
