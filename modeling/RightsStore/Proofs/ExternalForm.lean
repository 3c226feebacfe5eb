import RightsStore.Proofs.Reads
import RightsStore.Proofs.Visibility
import RightsStore.Proofs.WrittenMoment
import RightsStore.Schema.Load

namespace RightsStore

namespace Document

mutual

def external : Document → Document
  | .moment t => .text (.ofList t.iso)
  | .leaf a => .leaf a
  | .list ds => .list (externalItems ds)
  | .object fs => .object (externalFields fs)

def externalItems : List Document → List Document
  | [] => []
  | d :: ds => d.external :: externalItems ds

def externalFields : List (String × Document) → List (String × Document)
  | [] => []
  | (name, d) :: fs => (name, d.external) :: externalFields fs

end

@[simp] theorem external_cell (c : Cell) : (cell c).external = cell c := rfl

@[simp] theorem external_moment (t : Moment) : (moment t).external = text (.ofList t.iso) := rfl

@[simp] theorem external_object (fs : List (String × Document)) :
    (object fs).external = object (externalFields fs) := rfl

theorem externalItems_eq_map (ds : List Document) : externalItems ds = ds.map external := by
  induction ds with
  | nil => rfl
  | cons d ds ih => rw [externalItems, ih, List.map_cons]

theorem externalFields_eq_map (fs : List (String × Document)) :
    externalFields fs = fs.map (Prod.map id external) := by
  induction fs with
  | nil => rfl
  | cons f fs ih =>
    rw [externalFields, ih]
    rfl

end Document

structure Content.Full (c : Content) : Prop where
  id : c.id ≠ .null
  location : c.location ≠ .null
  mediaType : c.mediaType ≠ .null

structure License.Full (l : License) : Prop where
  id : l.id ≠ .null
  user : ∃ u : User, l.user = some u ∧ u.id ≠ .null
  provider : l.provider ≠ .null
  issued : l.issued ≠ .null
  rights : l.rights = some l.grants
  contentId : l.contentId ≠ .null

namespace Schema

structure Entry.Carries (e : Entry) (f : String × Document) : Prop where
  name : e.name = f.1
  dump : ∀ source : Document, source.field? f.1 = some f.2 → e.dump source = .ok (some f.2.external)
  load : e.load (some f.2.external) = .ok (some f.2)

structure Carries (s : Schema) (fields : List (String × Document)) : Prop where
  names : (fields.map (·.1)).Nodup
  entries : List.Forall₂ Entry.Carries s fields

theorem Entry.carries_field {f : Field} {d : Document} (hdump : f.kind.dump d = .ok d.external)
    (hload : f.load (some d.external) = .ok (some d)) : (Entry.field f).Carries (f.name, d) := by
  refine ⟨rfl, ?_, hload⟩
  intro source hsource
  rw [Entry.dump, Field.dump, hsource]
  dsimp only
  rw [hdump]
  rfl

theorem dumpEntries_of_carries {entries : List Entry} {source : Document}
    {fields : List (String × Document)} (h : List.Forall₂ Entry.Carries entries fields)
    (hsource : ∀ f ∈ fields, source.field? f.1 = some f.2) :
    dumpEntries entries source = .ok (Document.externalFields fields) := by
  induction h with
  | nil => rfl
  | @cons e f entries fields he _ ih =>
    rw [List.forall_mem_cons] at hsource
    rw [dumpEntries, he.dump source hsource.1, ih hsource.2, he.name]
    rfl

theorem names_eq_of_carries {entries : List Entry} {fields : List (String × Document)}
    (h : List.Forall₂ Entry.Carries entries fields) :
    entries.map Entry.name = fields.map (·.1) := by
  induction h with
  | nil => rfl
  | cons he _ ih => rw [List.map_cons, List.map_cons, he.name, ih]

theorem loads_of_carries {entries : List Entry} {shown fields : List (String × Document)}
    (h : List.Forall₂ Entry.Carries entries fields)
    (hshown : ∀ f ∈ fields, shown.lookup f.1 = some f.2.external) :
    (entries.map fun e => (e.name, e.load (shown.lookup e.name))) =
      fields.map fun f => (f.1, .ok (some f.2)) := by
  induction h with
  | nil => rfl
  | @cons e f entries fields he _ ih =>
    rw [List.forall_mem_cons] at hshown
    rw [List.map_cons, List.map_cons, ih hshown.2, he.name, hshown.1, he.load]

namespace Carries

variable {s : Schema} {fields : List (String × Document)}

theorem field? (h : s.Carries fields) {f : String × Document} (hf : f ∈ fields) :
    (Document.object fields).field? f.1 = some f.2 :=
  lookup_of_mem h.names hf

theorem dumpEntries (h : s.Carries fields) :
    Schema.dumpEntries s (.object fields) = .ok (Document.externalFields fields) :=
  dumpEntries_of_carries h.entries fun _ => h.field?

theorem dump (h : s.Carries fields) :
    s.dump (.object fields) = .ok (Document.object fields).external := by
  rw [Schema.dump, h.dumpEntries]
  rfl

theorem lookup_external (h : s.Carries fields) {f : String × Document} (hf : f ∈ fields) :
    (Document.externalFields fields).lookup f.1 = some f.2.external := by
  have hnames : ((Document.externalFields fields).map (·.1)).Nodup := by
    rw [Document.externalFields_eq_map, List.map_map]
    exact h.names
  refine lookup_of_mem (e := (f.1, f.2.external)) hnames ?_
  rw [Document.externalFields_eq_map]
  exact List.mem_map_of_mem hf

theorem known (h : s.Carries fields) {name : String} {d : Document}
    (hd : (name, d) ∈ Document.externalFields fields) : ∃ e ∈ s, e.name = name := by
  rw [Document.externalFields_eq_map, List.mem_map] at hd
  obtain ⟨f, hf, heq⟩ := hd
  cases heq
  rw [← List.mem_map, names_eq_of_carries h.entries]
  exact List.mem_map_of_mem hf

theorem load (h : s.Carries fields) :
    s.load (Document.object fields).external = .ok (.object fields) := by
  have hloads := loads_of_carries h.entries fun _ => h.lookup_external
  have hknown : ∀ name d, (name, d) ∈ Document.externalFields fields → ∃ e ∈ s, e.name = name :=
    fun _ _ => h.known
  simp only [Schema.load, Document.external_object, loadObject, loadFields, List.map_map,
    Function.comp_def, hloads]
  simpa using hknown

end Carries

theorem dumpFields_eq (fields : List Field) (source : Document) :
    dumpFields fields source = dumpEntries (fields.map .field) source := by
  induction fields with
  | nil => rfl
  | cons f fields ih =>
    rw [dumpFields, ih]
    rfl

theorem Entry.carries_group {fields : List Field} {values : List (String × Document)}
    (h : Schema.Carries (fields.map .field) values) (name : String) :
    (Entry.group name fields).Carries (name, .object values) := by
  refine ⟨rfl, ?_, ?_⟩
  · intro source hsource
    have hdump := h.dumpEntries
    rw [← dumpFields_eq] at hdump
    rw [Entry.dump, hsource]
    dsimp only
    rw [hdump]
    rfl
  · have hload := h.load
    simp only [Schema.load, List.map_map, Function.comp_def, Entry.name, Entry.load] at hload
    simp only [Entry.load, loadGroup, Document.external_object] at hload ⊢
    rw [hload]

section Fields

variable {f : Field}

theorem Field.carries_null (hnull : f.nullable = true) : (Entry.field f).Carries (f.name, .null) := by
  refine Entry.carries_field rfl ?_
  simp [Field.load, hnull]

theorem Field.carries_text (hkind : f.kind = .text) (s : String) :
    (Entry.field f).Carries (f.name, .text s) := by
  refine Entry.carries_field ?_ ?_
  · rw [hkind]
    rfl
  · simp [Field.load, hkind, Kind.load, loadText, Except.map]

theorem Field.carries_integer (hkind : f.kind = .integer) (n : Int) :
    (Entry.field f).Carries (f.name, .int n) := by
  refine Entry.carries_field ?_ ?_
  · rw [hkind]
    rfl
  · simp [Field.load, hkind, Kind.load, loadInteger, Except.map]

theorem Field.carries_moment (hkind : f.kind = .moment) {t : Moment}
    (hread : Moment.ofIso t.iso = .ok t) : (Entry.field f).Carries (f.name, .moment t) := by
  refine Entry.carries_field ?_ ?_
  · rw [hkind]
    rfl
  · have hload : loadMoment (.text (.ofList t.iso)) = .ok t := by
      -- not by its equation, whose proof opens the reader of moments
      delta loadMoment
      dsimp only
      rw [String.toList_ofList, hread]
    simp [Field.load, hkind, Kind.load, hload, Except.map]

theorem Field.carries_isText (hkind : f.kind = .text) {d : Datum} (h : d.IsText)
    (hnull : d = .null → f.nullable = true) : (Entry.field f).Carries (f.name, d.document) := by
  rcases h with rfl | ⟨s, rfl⟩
  · exact carries_null (hnull rfl)
  · exact carries_text hkind s

theorem Field.carries_isInteger (hkind : f.kind = .integer) {d : Datum} (h : d.IsInteger)
    (hnull : d = .null → f.nullable = true) : (Entry.field f).Carries (f.name, d.document) := by
  rcases h with rfl | ⟨n, rfl⟩
  · exact carries_null (hnull rfl)
  · exact carries_integer hkind n

theorem Field.carries_inUtc (hkind : f.kind = .moment) {s : Stamp} (h : s.InUtc)
    (hnull : s = .null → f.nullable = true) : (Entry.field f).Carries (f.name, s.document) := by
  rcases h with rfl | ⟨t, rfl, ht⟩
  · exact carries_null (hnull rfl)
  · exact carries_moment hkind (t.ofIso_iso_of_utc ht)

end Fields

theorem carries_content {c : Content} (h : c.Typed) (hfull : c.Full) :
    ∃ fields, c.document = .object fields ∧ content.Carries fields := by
  refine ⟨_, rfl, ?_, ?_⟩
  · simp only [List.map_cons, List.map_nil]
    decide
  · refine .cons ?_ (.cons ?_ (.cons ?_ (.cons ?_ (.cons ?_ .nil))))
    · exact Field.carries_isText rfl h.id fun hnull => absurd hnull hfull.id
    · exact Field.carries_isText rfl h.location fun hnull => absurd hnull hfull.location
    · exact Field.carries_isInteger rfl h.length fun _ => rfl
    · exact Field.carries_isText rfl h.sha256 fun _ => rfl
    · exact Field.carries_isText rfl h.mediaType fun hnull => absurd hnull hfull.mediaType

theorem carries_user {u : User} (h : u.id.IsText) (hid : u.id ≠ .null) :
    (Entry.group "user" user).Carries ("user", u.document) := by
  refine Entry.carries_group ⟨by simp only [List.map_cons, List.map_nil]; decide, .cons ?_ .nil⟩ _
  exact Field.carries_isText rfl h fun hnull => absurd hnull hid

theorem carries_rights {g : Rights} (h : g.Typed) (hstart : g.start.InUtc) (hstop : g.stop.InUtc) :
    (Entry.group "rights" rights).Carries ("rights", g.document) := by
  refine Entry.carries_group ⟨by simp only [List.map_cons, List.map_nil]; decide, ?_⟩ _
  refine .cons ?_ (.cons ?_ (.cons ?_ (.cons ?_ .nil)))
  · exact Field.carries_isInteger rfl h.print fun _ => rfl
  · exact Field.carries_isInteger rfl h.copy fun _ => rfl
  · exact Field.carries_inUtc rfl hstart fun _ => rfl
  · exact Field.carries_inUtc rfl hstop fun _ => rfl

theorem carries_licenseReport {l : License} (h : l.Typed) (hl : l.Legible) (hfull : l.Full) :
    ∃ fields, l.document = .object fields ∧ licenseReport.Carries fields := by
  obtain ⟨u, hu, huid⟩ := hfull.user
  have huser : (l.user.map User.document).getD .null = u.document := by rw [hu]; rfl
  have hrights : (l.rights.map Rights.document).getD .null = l.grants.document := by
    rw [hfull.rights]
    rfl
  refine ⟨_, rfl, ?_, ?_⟩
  · simp only [List.map_cons, List.map_nil]
    decide
  · rw [huser, hrights]
    refine .cons ?_ (.cons ?_ (.cons ?_ (.cons ?_ (.cons ?_ (.cons ?_ (.cons ?_ (.cons ?_ .nil)))))))
    · exact Field.carries_isText rfl h.id fun hnull => absurd hnull hfull.id
    · exact Field.carries_isText rfl h.provider fun hnull => absurd hnull hfull.provider
    · exact Field.carries_inUtc rfl hl.issued fun hnull => absurd hnull hfull.issued
    · exact Field.carries_inUtc rfl hl.updated fun _ => rfl
    · exact carries_user (h.user u hu) huid
    · exact carries_rights h.rights hl.start hl.stop
    · exact Field.carries_isText rfl h.contentId fun hnull => absurd hnull hfull.contentId
    · obtain ⟨n, hn⟩ := hl.status
      rw [hn]
      exact Field.carries_integer rfl n

/-- The documents are dumped as `e`, and `e` is loaded as the documents, one by one and in their
order. -/
structure Restores (s : Schema) (e : Document) (ds : List Document) : Prop where
  dump : s.dumpMany ds = .ok e
  load : s.loadMany e = .ok (.list ds)

theorem dumpMany_external {s : Schema} {ds : List Document}
    (h : ∀ d ∈ ds, s.dump d = .ok d.external) :
    s.dumpMany ds = .ok (.list (Document.externalItems ds)) := by
  have hall : ds.mapM s.dump = .ok (Document.externalItems ds) := by
    induction ds with
    | nil => rfl
    | cons d ds ih =>
      rw [List.forall_mem_cons] at h
      rw [List.mapM_cons, h.1, ih h.2]
      rfl
  rw [dumpMany, hall]
  rfl

theorem loadMany_external {s : Schema} {ds : List Document}
    (h : ∀ d ∈ ds, s.load d.external = .ok d) :
    s.loadMany (.list (Document.externalItems ds)) = .ok (.list ds) := by
  have hloads : (Document.externalItems ds).map s.load = ds.map .ok := by
    rw [Document.externalItems_eq_map, List.map_map]
    exact List.map_congr_left h
  have hall : ∀ (r : Except (List (String × Faults)) Document) (i : Nat),
      (r, i) ∈ (ds.map .ok).zipIdx → ∃ d, r = .ok d := by
    intro r i hr
    obtain ⟨d, -, rfl⟩ := List.mem_map.1 (List.fst_mem_of_mem_zipIdx hr)
    exact ⟨d, rfl⟩
  simp only [loadMany, hloads]
  rw [if_pos]
  · simp [List.filterMap_map]
  · rw [List.isEmpty_iff, List.filterMap_eq_nil_iff]
    rintro ⟨r, i⟩ hr
    obtain ⟨d, rfl⟩ := hall r i hr
    rfl

theorem restores_of_carries {s : Schema} {ds : List Document}
    (h : ∀ d ∈ ds, ∃ fields, d = .object fields ∧ s.Carries fields) : ∃ e, s.Restores e ds := by
  refine ⟨_, dumpMany_external ?_, loadMany_external ?_⟩
  · intro d hd
    obtain ⟨fields, rfl, hfields⟩ := h d hd
    exact hfields.dump
  · intro d hd
    obtain ⟨fields, rfl, hfields⟩ := h d hd
    exact hfields.load

end Schema

end RightsStore
