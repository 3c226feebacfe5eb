import RightsStore.Proofs.Contents
import RightsStore.Proofs.LastWrites
import RightsStore.Schema.Dump

namespace RightsStore

def Stamp.InUtc (s : Stamp) : Prop := s = .null ∨ ∃ u, s = .moment u ∧ u.offset = some .utc

structure License.Legible (l : License) : Prop where
  issued : l.issued.InUtc
  updated : l.updated.InUtc
  start : l.grants.start.InUtc
  stop : l.grants.stop.InUtc
  status : ∃ n, l.status = .int n

namespace Schema

variable {f : Field} {source d : Document}

def Kind.Takes (k : Kind) (d : Document) : Prop := ∃ e, k.dump d = .ok e

theorem Kind.takes_text {d : Datum} (h : d.IsText) : text.Takes d.document := by
  rcases h with rfl | ⟨s, rfl⟩ <;> exact ⟨_, rfl⟩

theorem Kind.takes_integer {d : Datum} (h : d.IsInteger) : integer.Takes d.document := by
  rcases h with rfl | ⟨n, rfl⟩ <;> exact ⟨_, rfl⟩

theorem Kind.takes_moment {s : Stamp} (h : s.InUtc) : moment.Takes s.document := by
  rcases h with rfl | ⟨u, rfl, -⟩ <;> exact ⟨_, rfl⟩

def Field.Shows (f : Field) (source : Document) : Prop :=
  ∃ d, source.field? f.name = some d ∧ f.kind.Takes d

theorem Field.Shows.dump (h : f.Shows source) : ∃ e, f.dump source = .ok e := by
  obtain ⟨d, hd, e, he⟩ := h
  rw [Field.dump, hd]
  dsimp only
  rw [he]
  exact ⟨some e, rfl⟩

theorem dumpFields_succeeds {fields : List Field} (h : ∀ f ∈ fields, f.Shows source) :
    ∃ es, dumpFields fields source = .ok es := by
  induction fields with
  | nil => exact ⟨[], rfl⟩
  | cons f fields ih =>
    rw [List.forall_mem_cons] at h
    obtain ⟨e, he⟩ := h.1.dump
    obtain ⟨es, hes⟩ := ih h.2
    rw [dumpFields, he, hes]
    exact ⟨_, rfl⟩

def Entry.Shows : Entry → Document → Prop
  | .field f, source => f.Shows source
  | .group name fields, source =>
    source.field? name = some .null ∨
      ∃ d, source.field? name = some (.object d) ∧ ∀ f ∈ fields, f.Shows (.object d)

theorem Entry.Shows.dump {e : Entry} (h : e.Shows source) : ∃ d, e.dump source = .ok d := by
  cases e with
  | field f => exact Field.Shows.dump h
  | group name fields =>
    rcases h with hnull | ⟨d, hd, hfields⟩
    · rw [Entry.dump, hnull]
      exact ⟨_, rfl⟩
    · obtain ⟨es, hes⟩ := dumpFields_succeeds hfields
      rw [Entry.dump, hd]
      dsimp only
      rw [hes]
      exact ⟨_, rfl⟩

theorem dump_succeeds {s : Schema} (h : ∀ e ∈ s, e.Shows source) : ∃ d, s.dump source = .ok d := by
  have hentries : ∃ ds, dumpEntries s source = .ok ds := by
    induction s with
    | nil => exact ⟨[], rfl⟩
    | cons e s ih =>
      rw [List.forall_mem_cons] at h
      obtain ⟨d, hd⟩ := h.1.dump
      obtain ⟨ds, hds⟩ := ih h.2
      rw [dumpEntries, hd, hds]
      exact ⟨_, rfl⟩
  obtain ⟨ds, hds⟩ := hentries
  rw [Schema.dump, hds]
  exact ⟨_, rfl⟩

theorem dumpMany_succeeds {s : Schema} {sources : List Document}
    (h : ∀ source ∈ sources, ∃ d, s.dump source = .ok d) : ∃ d, s.dumpMany sources = .ok d := by
  have hall : ∃ ds, sources.mapM s.dump = .ok ds := by
    induction sources with
    | nil => exact ⟨[], rfl⟩
    | cons source sources ih =>
      rw [List.forall_mem_cons] at h
      obtain ⟨d, hd⟩ := h.1
      obtain ⟨ds, hds⟩ := ih h.2
      rw [List.mapM_cons, hd, hds]
      exact ⟨_, rfl⟩
  obtain ⟨ds, hds⟩ := hall
  rw [Schema.dumpMany, hds]
  exact ⟨_, rfl⟩

theorem dump_content {c : Content} (h : c.Typed) : ∃ d, content.dump c.object = .ok d := by
  apply dump_succeeds
  simp only [content, List.forall_mem_cons, List.not_mem_nil, false_imp_iff, implies_true, and_true]
  exact ⟨⟨_, rfl, Kind.takes_text h.id⟩, ⟨_, rfl, Kind.takes_text h.location⟩,
    ⟨_, rfl, Kind.takes_integer h.length⟩, ⟨_, rfl, Kind.takes_text h.sha256⟩,
    ⟨_, rfl, Kind.takes_text h.mediaType⟩⟩

theorem dump_licenseReport {l : License} (h : l.Typed) (hl : l.Legible) :
    ∃ d, licenseReport.dump l.document = .ok d := by
  have huser : (Entry.group "user" user).Shows l.document := by
    have hfield : l.document.field? "user" = some ((l.user.map User.document).getD .null) := rfl
    cases hu : l.user with
    | none =>
      rw [hu] at hfield
      exact .inl hfield
    | some u =>
      rw [hu] at hfield
      refine .inr ⟨_, hfield, ?_⟩
      simp only [user, List.forall_mem_cons, List.not_mem_nil, false_imp_iff, implies_true, and_true]
      exact ⟨_, rfl, Kind.takes_text (h.user u hu)⟩
  have hrights : (Entry.group "rights" rights).Shows l.document := by
    have hfield : l.document.field? "rights" = some ((l.rights.map Rights.document).getD .null) :=
      rfl
    cases hg : l.rights with
    | none =>
      rw [hg] at hfield
      exact .inl hfield
    | some g =>
      have hgrants : l.grants = g := by rw [License.grants, hg, Option.getD_some]
      rw [hg] at hfield
      refine .inr ⟨_, hfield, ?_⟩
      simp only [rights, List.forall_mem_cons, List.not_mem_nil, false_imp_iff, implies_true,
        and_true]
      exact ⟨⟨_, rfl, Kind.takes_integer (hgrants ▸ h.rights.print)⟩,
        ⟨_, rfl, Kind.takes_integer (hgrants ▸ h.rights.copy)⟩,
        ⟨_, rfl, Kind.takes_moment (hgrants ▸ hl.start)⟩,
        ⟨_, rfl, Kind.takes_moment (hgrants ▸ hl.stop)⟩⟩
  apply dump_succeeds
  simp only [licenseReport, List.forall_mem_cons, List.not_mem_nil, false_imp_iff, implies_true,
    and_true]
  exact ⟨⟨_, rfl, Kind.takes_text h.id⟩, ⟨_, rfl, Kind.takes_text h.provider⟩,
    ⟨_, rfl, Kind.takes_moment hl.issued⟩, ⟨_, rfl, Kind.takes_moment hl.updated⟩, huser, hrights,
    ⟨_, rfl, Kind.takes_text h.contentId⟩, ⟨_, rfl, Kind.takes_integer h.status⟩⟩

end Schema

end RightsStore
