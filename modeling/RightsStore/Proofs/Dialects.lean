import RightsStore.Proofs.Declarations
import RightsStore.Proofs.Lockstep

namespace RightsStore

structure ContentTable.Alike (t t' : ContentTable) : Prop where
  entries : t'.entries = t.entries
  hasType : t.layout.hasType = true
  hasType' : t'.layout.hasType = true

structure LicenseTable.Alike (t t' : LicenseTable) : Prop where
  entries : t'.entries = t.entries

structure Database.Alike (db db' : Database) : Prop where
  content : Option.Rel ContentTable.Alike db.content db'.content
  license : Option.Rel LicenseTable.Alike db.license db'.license
  other : db'.other = db.other
  draws : db'.draws = db.draws

def Comparison.ofDialects (d d' : Dialect) : Comparison where
  keys := .shown
  left := d
  right := d'
  Declared _ _ := True
  declared := trivial
  Tables _ := ContentTable.Alike
  hasType h := h.hasType'.trans h.hasType.symm
  rows h := by rw [ContentTable.rows, ContentTable.rows, h.entries]
  less h := h
  add h hr := by
    rw [ContentRow.seen_shown, ContentRow.seen_shown] at hr
    exact ⟨by rw [h.entries, hr], h.hasType, h.hasType'⟩
  replace h hr := by
    rw [ContentRow.seen_shown, ContentRow.seen_shown] at hr
    exact ⟨by rw [h.entries, hr], h.hasType, h.hasType'⟩
  created _ _ := ⟨rfl, rfl, rfl⟩
  extended h hlegacy := absurd h.hasType (Bool.eq_false_iff.1 hlegacy)

theorem Database.Alike.compared {db db' : Database} (h : db.Alike db') (d d' : Dialect) (n : Nat) :
    (Comparison.ofDialects d d').Databases n db db' := by
  refine ⟨h.content, ?_, h.other, h.draws⟩
  rcases exists_of_optionRel h.license with ⟨hdb, hdb'⟩ | ⟨t, t', hdb, hdb', ht⟩
  · rw [hdb, hdb']
    exact .none
  · rw [hdb, hdb']
    exact .some ⟨ht.entries, trivial⟩

namespace Session

structure Alike (s s' : Session) : Prop where
  wiring : s'.wiring = s.wiring
  counts : s'.counts = s.counts
  database : s.database.Alike s'.database
  pool : s'.pool = s.pool
  index : s'.index = s.index
  licenses : s'.licenses = s.licenses
  streams : s'.streams = s.streams

variable {s s' : Session}

namespace Alike

theorem start (d d' : Dialect) (w : Wiring) (draws : Draws) :
    (start d w draws).Alike (start d' w draws) :=
  ⟨rfl, rfl, ⟨.none, .none, rfl, rfl⟩, rfl, rfl, rfl, rfl⟩

theorem compared (h : s.Alike s') (n : Nat) :
    (Comparison.ofDialects s.dialect s'.dialect).Sessions n s s' where
  dialect := rfl
  dialect' := rfl
  wiring := h.wiring
  counts := h.counts
  pool := h.pool
  database := h.database.compared ..
  index := h.index
  licenses := h.licenses
  streams := by rw [h.streams]

end Alike

theorem answers_run (h : s.Alike s') {xs : List Step} (hxs : ∀ x ∈ xs, x.isStoreStep = true) :
    (s'.run xs).1.map Reply.answer = (s.run xs).1.map Reply.answer := by
  obtain ⟨hreplies, -⟩ := Comparison.run (fun x => x.isStoreStep = true)
    (fun _ _ _ _ _ hx hs hseen => Comparison.Results.step hs hx hseen) hxs rfl (h.compared (0 + _))
  exact Comparison.map_answer_of_replies rfl hreplies

/-- However the dialects declare their tables, a session answers the same in each, failures and
their messages included. -/
theorem answers_same_in_dialects (d d' : Dialect) (w : Wiring) (draws : Draws) {xs : List Step}
    (hxs : ∀ x ∈ xs, x.isStoreStep = true) :
    d.Declares ∧ d'.Declares ∧
      ((start d w draws).run xs).1.map Reply.answer =
        ((start d' w draws).run xs).1.map Reply.answer := by
  refine ⟨d.declares, d'.declares, ?_⟩
  exact answers_run (Alike.start d' d w draws) hxs

theorem answers_same_of_key_declared :
    let w : Wiring := .separate true
    let xs : List Step := [
      .openStore .content, .addContent { id := .text "a", key := .blob [0, 255] }, .listContents]
    ((start .sqlite w).run xs).2.database.columns "content" ≠
        ((start .postgres w).run xs).2.database.columns "content" ∧
      ((start .sqlite w).run xs).1.map Reply.answer =
        ((start .postgres w).run xs).1.map Reply.answer := by
  intro w xs
  have hxs : ∀ x ∈ xs, x.isStoreStep = true := by
    simp only [xs, List.forall_mem_cons]
    exact ⟨rfl, rfl, rfl, List.forall_mem_nil _⟩
  refine ⟨by decide +kernel, ?_⟩
  exact (answers_same_in_dialects .sqlite .postgres w {} hxs).2.2

end Session

end RightsStore
