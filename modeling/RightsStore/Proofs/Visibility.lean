import RightsStore.Proofs.Contents
import RightsStore.Schema.Dump

namespace RightsStore

inductive Keys
  | shown
  | hidden
  deriving DecidableEq, Repr

def Cell.seen (k : Keys) : Cell → Cell
  | .blob b =>
    match k with
    | .shown => .blob b
    | .hidden => .blob []
  | c => c

def Datum.seen (k : Keys) : Datum → Datum
  | .cell c => .cell (c.seen k)
  | d => d

def Content.seen (k : Keys) (c : Content) : Content := { c with key := c.key.seen k }

def ContentRow.seen (k : Keys) (r : ContentRow) : ContentRow := { r with key := r.key.seen k }

def Item.seen (k : Keys) : Item → Item
  | .content c => .content (c.seen k)
  | i => i

def Cursor.seen (k : Keys) : Cursor → Cursor
  | .reading rest => .reading (rest.map (·.map (Item.seen k)))
  | .closed => .closed

def Stream.seen (k : Keys) (t : Stream) : Stream := { t with cursor := t.cursor.seen k }

def Answer.seen (k : Keys) : Answer → Answer
  | .item i => .item (i.seen k)
  | .items is => .items (is.map (Item.seen k))
  | .taken is => .taken (is.map (·.map (Item.seen k)))
  | a => a

def Reply.seen (k : Keys) (r : Reply) : Reply := { r with answer := r.answer.map (Answer.seen k) }

def Step.seen (k : Keys) : Step → Step
  | .addContent c => .addContent (c.seen k)
  | .updateContent c => .updateContent (c.seen k)
  | x => x

section Shown

@[simp] theorem Cell.seen_shown (c : Cell) : c.seen .shown = c := by
  cases c <;> rfl

@[simp] theorem Datum.seen_shown (d : Datum) : d.seen .shown = d := by
  cases d with
  | cell c => rw [Datum.seen, Cell.seen_shown]
  | _ => rfl

@[simp] theorem Content.seen_shown (c : Content) : c.seen .shown = c := by
  rw [Content.seen, Datum.seen_shown]

@[simp] theorem ContentRow.seen_shown (r : ContentRow) : r.seen .shown = r := by
  rw [ContentRow.seen, Cell.seen_shown]

@[simp] theorem Item.seen_shown (i : Item) : i.seen .shown = i := by
  cases i with
  | content c => rw [Item.seen, Content.seen_shown]
  | _ => rfl

@[simp] theorem Answer.seen_shown (a : Answer) : a.seen .shown = a := by
  cases a with
  | item i => rw [Answer.seen, Item.seen_shown]
  | items is => rw [Answer.seen, List.map_id'' Item.seen_shown]
  | taken is =>
    have hmap (i : Option Item) : i.map (Item.seen .shown) = i := by
      cases i with
      | none => rfl
      | some i => exact congrArg some i.seen_shown
    rw [Answer.seen, List.map_id'' hmap]
  | _ => rfl

theorem map_answer_seen_shown (x : Except Failure Answer) : x.map (Answer.seen .shown) = x := by
  cases x with
  | error f => rfl
  | ok a => exact congrArg Except.ok a.seen_shown

end Shown

variable {k : Keys}

theorem Cell.eq_of_seen {c c' : Cell} (h : c'.seen k = c.seen k) :
    c' = c ∨ ∃ b b', c = .blob b ∧ c' = .blob b' := by
  cases c <;> cases c' <;> cases k <;> simp_all [seen]

theorem Datum.eq_of_seen {d d' : Datum} (h : d'.seen k = d.seen k) :
    d' = d ∨ ∃ b b', d = .blob b ∧ d' = .blob b' := by
  cases d with
  | cell c =>
    cases d' with
    | cell c' =>
      rcases Cell.eq_of_seen (Datum.cell.inj h) with rfl | ⟨b, b', rfl, rfl⟩
      · exact .inl rfl
      · exact .inr ⟨b, b', rfl, rfl⟩
    | _ => cases h
  | _ =>
    cases d' with
    | cell c' => cases h
    | _ => exact .inl h

def Content.document (c : Content) : Document := .object [
  ("id", c.id.document), ("location", c.location.document), ("length", c.length.document),
  ("sha256", c.sha256.document), ("type", c.mediaType.document)]

namespace Schema

theorem dump_congr {s : Schema} {fs gs : List (String × Document)}
    (h : ∀ e ∈ s, fs.lookup e.name = gs.lookup e.name) :
    s.dump (.object fs) = s.dump (.object gs) := by
  have hentry {e : Entry} (he : fs.lookup e.name = gs.lookup e.name) :
      e.dump (.object fs) = e.dump (.object gs) := by
    cases e with
    | field f =>
      have hfield : (Document.object fs).field? f.name = (Document.object gs).field? f.name := he
      rw [Entry.dump, Entry.dump, Field.dump, Field.dump, hfield]
      rfl
    | group name fields =>
      have hfield : (Document.object fs).field? name = (Document.object gs).field? name := he
      rw [Entry.dump, Entry.dump, hfield]
  have hentries : dumpEntries s (.object fs) = dumpEntries s (.object gs) := by
    induction s with
    | nil => rfl
    | cons e s ih =>
      rw [List.forall_mem_cons] at h
      rw [dumpEntries, dumpEntries, hentry h.1, ih h.2]
  rw [dump, dump, hentries]

/-- A schema without a field for the key. -/
def HidesKey (s : Schema) : Prop := ∀ e ∈ s, e.name ≠ "encryption_key"

theorem hidesKey_content : content.HidesKey := by
  simp [HidesKey, content, Entry.name]

theorem hidesKey_licenseReport : licenseReport.HidesKey := by
  simp [HidesKey, licenseReport, Entry.name]

variable {s : Schema}

theorem dump_object (hs : s.HidesKey) (c : Content) : s.dump c.object = s.dump c.document := by
  apply dump_congr
  intro e he
  have hname : (e.name == "encryption_key") = false := by simpa using hs e he
  simp only [List.lookup_cons, hname]

theorem dumpMany_congr {α : Type} {f g : α → Document} (h : ∀ a, s.dump (f a) = s.dump (g a))
    (as : List α) : s.dumpMany (as.map f) = s.dumpMany (as.map g) := by
  have hdumps : (as.map f).mapM s.dump = (as.map g).mapM s.dump := by
    induction as with
    | nil => rfl
    | cons a as ih => rw [List.map_cons, List.map_cons, List.mapM_cons, List.mapM_cons, h, ih]
  rw [dumpMany, dumpMany, hdumps]

theorem dump_document_seen (hs : s.HidesKey) (k : Keys) (i : Item) :
    s.dump (i.seen k).document = s.dump i.document := by
  cases i with
  | content c => exact (dump_object hs _).trans (dump_object hs c).symm
  | _ => rfl

end Schema

namespace ContentRow

theorem read_seen (k : Keys) (r : ContentRow) :
    (r.seen k).read.map (Content.seen k) = r.read.map (Content.seen k) := by
  obtain ⟨id, key, location, length, sha256, mediaType⟩ := r
  cases key with
  | blob b => cases k <;> rfl
  | _ => rfl

theorem read_of_seen {r r' : ContentRow} (h : r'.seen k = r.seen k) :
    r'.read.map (Content.seen k) = r.read.map (Content.seen k) := by
  rw [← read_seen k r', h, read_seen k r]

theorem item_seen (k : Keys) (r : ContentRow) :
    (contentItem (r.seen k)).map (Item.seen k) =
      (contentItem r).map (Item.seen k) := by
  have hitem (x : Except Failure Content) :
      (x.map Item.content).map (Item.seen k) = (x.map (Content.seen k)).map Item.content := by
    cases x <;> rfl
  rw [contentItem, contentItem, hitem, hitem, read_seen]

end ContentRow

namespace Cursor

variable (k)

@[simp] theorem isClosed_seen (c : Cursor) : (c.seen k).isClosed = c.isClosed := by
  cases c <;> rfl

theorem next_seen (c : Cursor) :
    (c.seen k).next = (c.next.1.map (Option.map (Item.seen k)), c.next.2.seen k) := by
  match c with
  | .closed => rfl
  | .reading [] => rfl
  | .reading (.ok a :: rest) => rfl
  | .reading (.error f :: rest) => rfl

theorem remaining_seen (rest : List (Except Failure Item)) :
    Stream.remaining (rest.map (·.map (Item.seen k))) =
      (Stream.remaining rest).map (List.map (Item.seen k)) := by
  induction rest with
  | nil => rfl
  | cons x rest ih =>
    cases x with
    | error f => rfl
    | ok a =>
      have hfirst : (Except.ok a : Except Failure Item).map (Item.seen k) = .ok (a.seen k) := rfl
      simp only [List.map_cons, hfirst, Stream.remaining, ih]
      cases Stream.remaining rest with
      | error f => rfl
      | ok items => rfl

theorem drain_seen (c : Cursor) : (c.seen k).drain = c.drain.map (List.map (Item.seen k)) := by
  cases c with
  | closed => rfl
  | reading rest => exact remaining_seen k rest

theorem take_seen (n : Nat) (c : Cursor) :
    (c.seen k).take n =
      ((c.take n).1.map (List.map (Option.map (Item.seen k))), (c.take n).2.seen k) := by
  induction n generalizing c with
  | zero => rfl
  | succ n ih =>
    simp only [take, next_seen]
    obtain ⟨item, c'⟩ := c.next
    cases item with
    | error f => rfl
    | ok item =>
      simp only [Except.map, ih]
      obtain ⟨items, c''⟩ := take n c'
      cases items <;> rfl

theorem within_seen (n : Nat) (abort : Option String) (c : Cursor) :
    (c.seen k).within n abort =
      (c.within n abort).map (List.map (Option.map (Item.seen k))) := by
  simp only [within, take_seen]
  cases (c.take n).1 with
  | error f => rfl
  | ok items =>
    cases abort with
    | none => rfl
    | some message => rfl

end Cursor

namespace Step

theorem content?_seen (k : Keys) (x : Step) :
    (x.seen k).content? = x.content?.map (Content.seen k) := by
  cases x <;> rfl

theorem seen_of_content? {x : Step} (h : x.content? = none) : x.seen k = x := by
  cases x with
  | addContent c => cases h
  | updateContent c => cases h
  | _ => rfl

theorem eq_of_seen {x x' : Step} (h : x'.seen k = x.seen k) (hx : x.content? = none) : x' = x := by
  have hx' : x'.content? = none := by
    have hmap : x'.content?.map (Content.seen k) = x.content?.map (Content.seen k) := by
      rw [← content?_seen, ← content?_seen, h]
    rw [hx] at hmap
    exact Option.map_eq_none_iff.1 hmap
  rw [← seen_of_content? hx', h, seen_of_content? hx]

theorem exists_of_seen_addContent {x' : Step} {c : Content}
    (h : x'.seen k = (addContent c).seen k) :
    ∃ c', x' = .addContent c' ∧ c'.seen k = c.seen k := by
  cases x' with
  | addContent c' => exact ⟨c', rfl, addContent.inj h⟩
  | _ => cases h

theorem exists_of_seen_updateContent {x' : Step} {c : Content}
    (h : x'.seen k = (updateContent c).seen k) :
    ∃ c', x' = .updateContent c' ∧ c'.seen k = c.seen k := by
  cases x' with
  | updateContent c' => exact ⟨c', rfl, updateContent.inj h⟩
  | _ => cases h

end Step

end RightsStore
