import RightsStore.Proofs.ExternalForm

/-!
Loading brings a document into a form that stays: dumped, it has the keys that were given, and
loaded again it is the same. Only rights without a `copy` cannot be dumped.
-/

namespace RightsStore

namespace Document

inductive SameKeys : Document → Document → Prop
  | leaf (a b : Leaf) : SameKeys (.leaf a) (.leaf b)
  | list {ds es : List Document} : List.Forall₂ SameKeys ds es → SameKeys (.list ds) (.list es)
  | object {fs gs : List (String × Document)} :
      (∀ name, Option.Rel SameKeys (fs.lookup name) (gs.lookup name)) →
      SameKeys (.object fs) (.object gs)

theorem lookup_externalFields (fs : List (String × Document)) (name : String) :
    (externalFields fs).lookup name = (fs.lookup name).map external := by
  induction fs with
  | nil => rfl
  | cons f fs ih =>
    obtain ⟨n, d⟩ := f
    rw [externalFields, List.lookup_cons, List.lookup_cons, ih]
    cases name == n <;> rfl

theorem external_leaf (a : Leaf) : ∃ b, (leaf a).external = .leaf b := by
  cases a <;> exact ⟨_, rfl⟩

theorem field?_external (d : Document) (name : String) :
    d.external.field? name = (d.field? name).map external := by
  cases d with
  | leaf a =>
    obtain ⟨b, hb⟩ := external_leaf a
    rw [hb]
    rfl
  | list ds => rfl
  | object fs => exact lookup_externalFields fs name

theorem SameKeys.field? {d e : Document} (h : d.SameKeys e) (name : String) :
    Option.Rel SameKeys (d.field? name) (e.field? name) := by
  cases h with
  | leaf a b => exact .none
  | list h => exact .none
  | object h => exact h name

end Document

open Document

namespace Schema

def noCopy : Undumpable := .noNumber "builtin_function_or_method"

def Field.isWhole (f : Field) (given : Option Document) : Bool := f.name != "copy" || given.isSome

def Field.OnlyCopy (f : Field) : Prop :=
  f.name ∈ objectOperations → f.name = "copy" ∧ f.kind = .integer

theorem Field.OnlyCopy.dumpAbsent {f : Field} (h : f.OnlyCopy) (fields : List (String × Document)) :
    f.dumpAbsent (.object fields) = if f.name = "copy" then .error noCopy else .ok none := by
  by_cases hname : f.name = "copy"
  · have hmem : f.name ∈ objectOperations := hname ▸ by decide
    simp [Field.dumpAbsent, hname ▸ hmem, hname, (h hmem).2, Kind.dumpOperation, noCopy]
  · have hmem : f.name ∉ objectOperations := fun hmem => hname (h hmem).1
    simp [Field.dumpAbsent, hmem, hname]

def Entry.isWhole : Entry → Option Document → Bool
  | .field f, given => f.isWhole given
  | .group _ fields, some d => fields.all fun f => f.isWhole (d.field? f.name)
  | .group _ _, none => true

def isWhole (s : Schema) (d : Document) : Bool := s.all fun e => e.isWhole (d.field? e.name)

/-- What has been loaded of an entry is dumped, where it can be, and loaded again as the same. -/
structure Entry.Settles (e : Entry) (given loaded : Option Document) : Prop where
  keys : Option.Rel SameKeys given (loaded.map external)
  load : e.load (loaded.map external) = .ok loaded
  dump : ∀ fields : List (String × Document), fields.lookup e.name = loaded →
    e.dump (.object fields) =
      if e.isWhole loaded then .ok (loaded.map external) else .error noCopy

structure Settles (load : Document → Except (List (String × Faults)) Document)
    (dump : Document → Except Undumpable Document) (whole : Bool) (given loaded : Document) :
    Prop where
  keys : given.SameKeys loaded.external
  load : load loaded.external = .ok loaded
  dump : dump loaded = if whole then .ok loaded.external else .error noCopy

def Entry.found (e : Entry) (given : List (String × Document)) : Option Document :=
  (e.load (given.lookup e.name)).toOption.join

theorem Entry.found_eq {e : Entry} {given : List (String × Document)} {loaded : Option Document}
    (h : e.load (given.lookup e.name) = .ok loaded) : e.found given = loaded := by
  rw [found, h]
  rfl

/-- The fields of the entries in their order, each of them where there is something. -/
def gathered (s : Schema) (get : Entry → Option Document) : List (String × Document) :=
  s.filterMap fun e => (get e).map (e.name, ·)

def Arranged (s : Schema) (fields : List (String × Document)) : Prop :=
  fields = s.gathered fun e => fields.lookup e.name

variable {s : Schema}

theorem gathered_congr {get get' : Entry → Option Document} (h : ∀ e ∈ s, get e = get' e) :
    s.gathered get = s.gathered get' :=
  List.filterMap_congr fun e he => by rw [h e he]

theorem gathered_cons (get : Entry → Option Document) (e : Entry) :
    gathered (e :: s) get = ((get e).map (e.name, ·)).toList ++ gathered s get := by
  rw [gathered, List.filterMap_cons]
  cases get e <;> rfl

theorem name_mem_of_mem_gathered {get : Entry → Option Document} {f : String × Document}
    (h : f ∈ s.gathered get) : f.1 ∈ s.map Entry.name := by
  obtain ⟨e, he, hget⟩ := List.mem_filterMap.1 h
  obtain ⟨d, -, rfl⟩ := Option.map_eq_some_iff.1 hget
  exact List.mem_map_of_mem he

theorem externalFields_gathered (get : Entry → Option Document) :
    externalFields (s.gathered get) = s.gathered fun e => (get e).map external := by
  rw [externalFields_eq_map, gathered, gathered, List.map_filterMap]
  refine List.filterMap_congr fun e _ => ?_
  cases get e <;> rfl

theorem lookup_gathered_of_not_mem (get : Entry → Option Document) {name : String}
    (h : name ∉ s.map Entry.name) : (s.gathered get).lookup name = none := by
  refine lookup_eq_none_iff_not_mem.2 fun hmem => h ?_
  obtain ⟨f, hf, rfl⟩ := List.mem_map.1 hmem
  exact name_mem_of_mem_gathered hf

theorem lookup_gathered (hnames : (s.map Entry.name).Nodup) (get : Entry → Option Document)
    {e : Entry} (he : e ∈ s) : (s.gathered get).lookup e.name = get e := by
  induction s with
  | nil => cases he
  | cons e' s ih =>
    rw [List.map_cons, List.nodup_cons] at hnames
    rw [gathered_cons]
    obtain rfl | he := List.mem_cons.1 he
    · cases hget : get e with
      | none => exact lookup_gathered_of_not_mem get hnames.1
      | some d => simp
    · -- the first entry does not hide what comes under another name
      have hne : (e.name == e'.name) = false := by
        rw [beq_eq_false_iff_ne]
        intro heq
        exact hnames.1 (heq ▸ List.mem_map_of_mem he)
      rw [← ih hnames.2 he]
      cases get e' with
      | none => rfl
      | some d => simp [List.lookup_cons, hne]

theorem load_object_iff (given : List (String × Document)) (d : Document) :
    s.load (.object given) = .ok d ↔
      (∀ e ∈ s, e.load (given.lookup e.name) = .ok (e.found given)) ∧
        (∀ f ∈ given, f.1 ∈ s.map Entry.name) ∧ .object (s.gathered fun e => e.found given) = d := by
  have hnames : (s.map fun e => (e.name, e.load)).map (·.1) = s.map Entry.name := by
    rw [List.map_map]
    rfl
  have hknown : (given.filter fun f => !(s.map Entry.name).contains f.1) = [] ↔
      ∀ f ∈ given, f.1 ∈ s.map Entry.name := by
    rw [List.filter_eq_nil_iff]
    refine forall₂_congr fun f _ => ?_
    rw [Bool.not_eq_true', Bool.not_eq_false, List.contains_iff_mem]
  unfold load loadObject loadFields
  simp only [hnames, List.map_map, Function.comp_def, List.isEmpty_iff, List.append_eq_nil_iff,
    List.filterMap_eq_nil_iff, List.forall_mem_map, List.map_eq_nil_iff, hknown]
  split
  · rename_i hfaults
    have hload : ∀ e ∈ s, e.load (given.lookup e.name) = .ok (e.found given) := by
      intro e he
      have hnone := hfaults.1 e he
      cases hx : e.load (given.lookup e.name) with
      | error f => simp [hx] at hnone
      | ok loaded => rw [Entry.found_eq hx]
    rw [and_iff_right hload, and_iff_right hfaults.2, Except.ok.injEq, List.filterMap_map,
      List.filterMap_congr (g := fun e => (e.found given).map (e.name, ·))]
    · rfl
    · intro e he
      simp only [Function.comp_apply, hload e he]
      cases e.found given <;> rfl
  · -- a loader that succeeds leaves no fault, nor does a known name
    rename_i hfaults
    refine ⟨nofun, fun h => absurd ⟨fun e he => ?_, h.2.1⟩ hfaults⟩
    simp [h.1 e he]

theorem load_eq_ok_iff (hnames : (s.map Entry.name).Nodup) {given fields : List (String × Document)} :
    s.load (.object given) = .ok (.object fields) ↔
      (∀ e ∈ s, e.load (given.lookup e.name) = .ok (fields.lookup e.name)) ∧
        (∀ f ∈ given, f.1 ∈ s.map Entry.name) ∧ s.Arranged fields := by
  rw [load_object_iff]
  constructor
  · rintro ⟨hload, hknown, hfields⟩
    cases hfields
    have hlookup : ∀ e ∈ s, (s.gathered fun e => e.found given).lookup e.name = e.found given :=
      fun e he => lookup_gathered hnames _ he
    refine ⟨fun e he => ?_, hknown, (gathered_congr hlookup).symm⟩
    rw [hlookup e he]
    exact hload e he
  · rintro ⟨hload, hknown, hfields⟩
    have hfound : ∀ e ∈ s, e.found given = fields.lookup e.name :=
      fun e he => Entry.found_eq (hload e he)
    refine ⟨fun e he => ?_, hknown, ?_⟩
    · rw [hfound e he]
      exact hload e he
    · rw [gathered_congr hfound, ← hfields]

theorem dumpEntries_eq {fields : List (String × Document)} (hdump : ∀ e ∈ s, e.dump (.object fields) =
      if e.isWhole (fields.lookup e.name) then .ok ((fields.lookup e.name).map external)
      else .error noCopy) :
    dumpEntries s (.object fields) =
      if s.isWhole (.object fields) then .ok (s.gathered fun e => (fields.lookup e.name).map external)
      else .error noCopy := by
  induction s with
  | nil => rfl
  | cons e s ih =>
    rw [List.forall_mem_cons] at hdump
    have hwhole : isWhole (e :: s) (.object fields) =
        (e.isWhole (fields.lookup e.name) && isWhole s (.object fields)) := rfl
    rw [dumpEntries, hdump.1, ih hdump.2, hwhole, gathered_cons]
    cases e.isWhole (fields.lookup e.name) with
    | false => rfl
    | true => cases isWhole s (.object fields) <;> rfl

theorem exists_object_of_load {v d : Document} (h : s.load v = .ok d) :
    ∃ given fields, v = .object given ∧ d = .object fields := by
  cases v with
  | leaf a => cases h
  | list ds => cases h
  | object given =>
    obtain ⟨-, -, rfl⟩ := (load_object_iff given d).1 h
    exact ⟨_, _, rfl, rfl⟩

theorem settles_of_entries (hnames : (s.map Entry.name).Nodup)
    (hentries : ∀ e ∈ s, ∀ given loaded, e.load given = .ok loaded → e.Settles given loaded)
    {v d : Document} (h : s.load v = .ok d) : Settles s.load s.dump (s.isWhole d) v d := by
  obtain ⟨given, fields, rfl, rfl⟩ := exists_object_of_load h
  obtain ⟨hload, hknown, hfields⟩ := (load_eq_ok_iff hnames).1 h
  have hsettles : ∀ e ∈ s, e.Settles (given.lookup e.name) (fields.lookup e.name) :=
    fun e he => hentries e he _ _ (hload e he)
  refine ⟨.object fun name => ?_, ?_, ?_⟩
  · rw [lookup_externalFields]
    by_cases hname : name ∈ s.map Entry.name
    · obtain ⟨e, he, rfl⟩ := List.mem_map.1 hname
      exact (hsettles e he).keys
    · have hgiven : given.lookup name = none := by
        refine lookup_eq_none_iff_not_mem.2 fun hmem => hname ?_
        obtain ⟨f, hf, rfl⟩ := List.mem_map.1 hmem
        exact hknown f hf
      rw [hgiven, hfields, lookup_gathered_of_not_mem _ hname]
      exact .none
  · refine (load_eq_ok_iff hnames).2 ⟨fun e he => ?_, fun f hf => ?_, hfields⟩
    · rw [lookup_externalFields]
      exact (hsettles e he).load
    · rw [hfields, externalFields_gathered] at hf
      exact name_mem_of_mem_gathered hf
  · rw [dump, dumpEntries_eq fun e he => (hsettles e he).dump fields rfl, ← externalFields_gathered,
      ← hfields]
    cases s.isWhole (.object fields) <;> rfl

theorem Kind.load_eq_ok {k : Kind} {d loaded : Document} (h : k.load d = .ok loaded) :
    (∃ a, d = .leaf a) ∧
      ((k = .text ∧ ∃ t, loaded = .text t) ∨ (k = .integer ∧ ∃ n, loaded = .int n) ∨
        (k = .moment ∧ ∃ t, loaded = .moment t ∧ Moment.ofIso t.iso = .ok t)) := by
  cases d with
  | list ds => cases k <;> cases h
  | object fs => cases k <;> cases h
  | leaf a =>
    refine ⟨⟨a, rfl⟩, ?_⟩
    cases k with
    | text =>
      obtain ⟨t, -, rfl⟩ := exists_of_map_eq_ok h
      exact .inl ⟨rfl, t, rfl⟩
    | integer =>
      obtain ⟨n, -, rfl⟩ := exists_of_map_eq_ok h
      exact .inr (.inl ⟨rfl, n, rfl⟩)
    | moment =>
      obtain ⟨t, ht, rfl⟩ := exists_of_map_eq_ok h
      refine .inr (.inr ⟨rfl, t, rfl, ?_⟩)
      -- not by its equation, whose proof opens the reader of moments
      delta loadMoment at ht
      split at ht
      · split at ht
        · rename_i hread
          cases ht
          exact Moment.ofIso_iso_of_ofIso hread
        · cases ht
      · cases ht

section Fields

variable {f : Field}

theorem Field.settles_of_carries {a : Leaf} {d : Document}
    (h : (Entry.field f).Carries (f.name, d)) (hleaf : ∃ b, d.external = .leaf b) :
    (Entry.field f).Settles (some (.leaf a)) (some d) := by
  obtain ⟨b, hb⟩ := hleaf
  refine ⟨.some ?_, h.load, fun fields hfields => ?_⟩
  · rw [hb]
    exact .leaf a b
  · have hwhole : (Entry.field f).isWhole (some d) = true := Bool.or_true _
    rw [h.dump (.object fields) hfields, hwhole]
    rfl

theorem Field.settles (hf : f.OnlyCopy) {given loaded : Option Document}
    (h : f.load given = .ok loaded) : (Entry.field f).Settles given loaded := by
  unfold Field.load at h
  split at h
  · split at h
    · cases h
    · rename_i hrequired
      cases h
      refine ⟨.none, ?_, fun fields hfields => ?_⟩
      · simp [Entry.load, Field.load, hrequired]
      · have hfield : (Document.object fields).field? f.name = none := hfields
        rw [Entry.dump, Field.dump, hfield]
        dsimp only
        rw [hf.dumpAbsent, Entry.isWhole, Field.isWhole]
        by_cases hname : f.name = "copy" <;> simp [hname]
  · split at h
    · rename_i hnull
      cases h
      exact Field.settles_of_carries (Field.carries_null hnull) ⟨_, rfl⟩
    · cases h
  · split at h
    · rename_i hload
      cases h
      obtain ⟨⟨a, rfl⟩, ⟨hkind, t, rfl⟩ | ⟨hkind, n, rfl⟩ | ⟨hkind, t, rfl, hread⟩⟩ :=
        Kind.load_eq_ok hload
      · exact Field.settles_of_carries (Field.carries_text hkind t) ⟨_, rfl⟩
      · exact Field.settles_of_carries (Field.carries_integer hkind n) ⟨_, rfl⟩
      · exact Field.settles_of_carries (Field.carries_moment hkind hread) ⟨_, rfl⟩
    · cases h

end Fields

def ofFields (fields : List Field) : Schema := fields.map .field

theorem load_ofFields (fields : List Field) (d : Document) :
    (ofFields fields).load d = loadObject (fields.map fun f => (f.name, f.load)) d := by
  rw [load, ofFields, List.map_map]
  rfl

theorem isWhole_ofFields (fields : List Field) (d : Document) :
    (ofFields fields).isWhole d = fields.all fun f => f.isWhole (d.field? f.name) := by
  rw [isWhole, ofFields, List.all_map]
  rfl

theorem loadGroup_eq_ok {fields : List Field} {given loaded : Option Document}
    (h : loadGroup fields given = .ok loaded) :
    (given = none ∧ loaded = none) ∨
      ∃ v d, given = some v ∧ loaded = some d ∧ (ofFields fields).load v = .ok d := by
  unfold loadGroup at h
  split at h
  · cases h
    exact .inl ⟨rfl, rfl⟩
  · cases h
  · split at h
    · rename_i hload
      cases h
      exact .inr ⟨_, _, rfl, rfl, (load_ofFields fields _).trans hload⟩
    · cases h

theorem loadGroup_object {fields : List Field} {values : List (String × Document)} {d : Document}
    (h : (ofFields fields).load (.object values) = .ok d) :
    loadGroup fields (some (.object values)) = .ok (some d) := by
  rw [load_ofFields] at h
  simp only [loadGroup, h]

theorem dump_group {name : String} {fields : List Field} {source : Document}
    {values : List (String × Document)} (h : source.field? name = some (.object values)) :
    (Entry.group name fields).dump source = ((ofFields fields).dump (.object values)).map some := by
  rw [Entry.dump, h]
  dsimp only
  rw [dumpFields_eq, dump, ofFields]
  cases dumpEntries (fields.map .field) (.object values) <;> rfl

theorem Entry.settles_group {name : String} {fields : List Field}
    (hnames : ((ofFields fields).map Entry.name).Nodup) (hfields : ∀ f ∈ fields, f.OnlyCopy)
    {given loaded : Option Document}
    (h : loadGroup fields given = .ok loaded) : (Entry.group name fields).Settles given loaded := by
  obtain ⟨rfl, rfl⟩ | ⟨v, d, rfl, rfl, hload⟩ := loadGroup_eq_ok h
  · refine ⟨.none, rfl, fun source hsource => ?_⟩
    have hfield : (Document.object source).field? name = none := hsource
    rw [Entry.dump, hfield]
    rfl
  · have hentries : ∀ e ∈ ofFields fields, ∀ given loaded, e.load given = .ok loaded →
        e.Settles given loaded := by
      intro e he given loaded hloaded
      obtain ⟨f, hf, rfl⟩ := List.mem_map.1 he
      exact Field.settles (hfields f hf) hloaded
    have hsettles := settles_of_entries hnames hentries hload
    obtain ⟨-, values, -, rfl⟩ := exists_object_of_load hload
    refine ⟨.some hsettles.keys, loadGroup_object hsettles.load, fun source hsource => ?_⟩
    have hwhole : (Entry.group name fields).isWhole (some (.object values)) =
        (ofFields fields).isWhole (.object values) := (isWhole_ofFields fields _).symm
    have hfield : (Document.object source).field? name = some (.object values) := hsource
    rw [dump_group hfield, hsettles.dump, hwhole]
    cases (ofFields fields).isWhole (.object values) <;> rfl

def Entry.fields : Entry → List Field
  | .field f => [f]
  | .group _ fields => fields

structure WellNamed (s : Schema) : Prop where
  names : (s.map Entry.name).Nodup
  groups : ∀ name fields, .group name fields ∈ s → ((ofFields fields).map Entry.name).Nodup
  fields : ∀ e ∈ s, ∀ f ∈ e.fields, f.OnlyCopy

theorem content_wellNamed : content.WellNamed where
  names := by decide
  groups := by simp [content]
  fields := by simp [content, Entry.fields, Field.OnlyCopy, objectOperations]

theorem licenseReport_wellNamed : licenseReport.WellNamed where
  names := by decide
  groups := by
    simp only [licenseReport, List.mem_cons, List.not_mem_nil, reduceCtorEq, false_or, or_false,
      Entry.group.injEq]
    rintro name fields (⟨-, rfl⟩ | ⟨-, rfl⟩) <;> decide
  fields := by
    simp [licenseReport, user, rights, Entry.fields, Field.OnlyCopy, objectOperations]

theorem WellNamed.settles (hs : s.WellNamed) {v d : Document} (h : s.load v = .ok d) :
    Settles s.load s.dump (s.isWhole d) v d := by
  refine settles_of_entries hs.names (fun e he given loaded hloaded => ?_) h
  cases e with
  | field f => exact Field.settles (hs.fields _ he f List.mem_cons_self) hloaded
  | group name fields =>
    exact Entry.settles_group (hs.groups name fields he) (hs.fields _ he) hloaded

theorem exists_of_mem_right {R : α → β → Prop} {as : List α} {bs : List β}
    (h : List.Forall₂ R as bs) : ∀ b ∈ bs, ∃ a, R a b := by
  induction h with
  | nil => exact nofun
  | cons hab _ ih => exact List.forall_mem_cons.2 ⟨⟨_, hab⟩, ih⟩

theorem loadMany_eq_ok {v d : Document} (h : s.loadMany v = .ok d) :
    ∃ vs ds, v = .list vs ∧ d = .list ds ∧ List.Forall₂ (fun v d => s.load v = .ok d) vs ds := by
  cases v with
  | leaf a => cases h
  | object fs => cases h
  | list vs =>
    unfold loadMany at h
    dsimp only at h
    split at h
    · rename_i hfaults
      cases h
      refine ⟨vs, _, rfl, rfl, ?_⟩
      rw [List.isEmpty_iff, List.filterMap_eq_nil_iff] at hfaults
      have hall : ∀ v ∈ vs, ∃ d, s.load v = .ok d := by
        intro v hv
        obtain ⟨i, hi⟩ := List.mem_iff_getElem?.1 (List.mem_map_of_mem (f := s.load) hv)
        have hnone := hfaults (s.load v, i) (List.mem_zipIdx_iff_getElem?.2 hi)
        cases hload : s.load v with
        | error faults => simp [hload] at hnone
        | ok d => exact ⟨d, rfl⟩
      clear hfaults
      induction vs with
      | nil => exact .nil
      | cons v vs ih =>
        rw [List.forall_mem_cons] at hall
        obtain ⟨d, hd⟩ := hall.1
        rw [List.map_cons, hd]
        exact .cons hd (ih hall.2)
    · cases h

theorem dumpMany_eq {ds : List Document} (h : ∀ d ∈ ds,
      s.dump d = if s.isWhole d then .ok d.external else .error noCopy) :
    s.dumpMany ds =
      if ds.all s.isWhole then .ok (.list (externalItems ds)) else .error noCopy := by
  have hall : ds.mapM s.dump =
      if ds.all s.isWhole then .ok (externalItems ds) else .error noCopy := by
    induction ds with
    | nil => rfl
    | cons d ds ih =>
      rw [List.forall_mem_cons] at h
      rw [List.mapM_cons, h.1, ih h.2, List.all_cons]
      cases s.isWhole d with
      | false => rfl
      | true => cases ds.all s.isWhole <;> rfl
  rw [dumpMany, hall]
  cases ds.all s.isWhole <;> rfl

def eachWhole (s : Schema) : Document → Bool
  | .list ds => ds.all s.isWhole
  | _ => true

theorem WellNamed.settles_many (hs : s.WellNamed) {v d : Document} (h : s.loadMany v = .ok d) :
    Settles s.loadMany s.dumpEach (s.eachWhole d) v d := by
  obtain ⟨vs, ds, rfl, rfl, hload⟩ := loadMany_eq_ok h
  have hsettles : List.Forall₂ (fun v d => Settles s.load s.dump (s.isWhole d) v d) vs ds :=
    hload.imp fun _ _ => hs.settles
  have hds : ∀ d ∈ ds, ∃ v, Settles s.load s.dump (s.isWhole d) v d :=
    exists_of_mem_right hsettles
  refine ⟨.list ?_, loadMany_external fun d hd => ?_, dumpMany_eq fun d hd => ?_⟩
  · rw [externalItems_eq_map, List.forall₂_map_right_iff]
    exact hsettles.imp fun _ _ => Settles.keys
  · obtain ⟨v, hv⟩ := hds d hd
    exact hv.load
  · obtain ⟨v, hv⟩ := hds d hd
    exact hv.dump

end Schema

namespace Document

def givesCopy (d : Document) : Bool := (d.field? "rights").all fun g => (g.field? "copy").isSome

def eachGivesCopy : Document → Bool
  | .list ds => ds.all givesCopy
  | _ => true

theorem givesCopy_external (d : Document) : d.external.givesCopy = d.givesCopy := by
  rw [givesCopy, givesCopy, field?_external]
  cases d.field? "rights" with
  | none => rfl
  | some g => simp [field?_external]

theorem SameKeys.givesCopy_eq {d e : Document} (h : d.SameKeys e) : d.givesCopy = e.givesCopy := by
  have hrights := h.field? "rights"
  unfold givesCopy
  generalize d.field? "rights" = given, e.field? "rights" = given' at hrights ⊢
  cases hrights with
  | none => rfl
  | @some g g' hg =>
    have hcopy := hg.field? "copy"
    simp only [Option.all_some]
    generalize g.field? "copy" = copy, g'.field? "copy" = copy' at hcopy ⊢
    cases hcopy <;> rfl

theorem eachGivesCopy_external (d : Document) : d.external.eachGivesCopy = d.eachGivesCopy := by
  cases d with
  | leaf a =>
    obtain ⟨b, hb⟩ := external_leaf a
    rw [hb]
    rfl
  | object fs => rfl
  | list ds =>
    have hitems : (externalItems ds).all givesCopy = ds.all givesCopy := by
      rw [externalItems_eq_map, List.all_map]
      exact congrArg ds.all (funext givesCopy_external)
    exact hitems

theorem SameKeys.eachGivesCopy_eq {d e : Document} (h : d.SameKeys e) :
    d.eachGivesCopy = e.eachGivesCopy := by
  cases h with
  | leaf a b => rfl
  | object h => rfl
  | @list ds es hitems =>
    have hall : ds.all givesCopy = es.all givesCopy := by
      induction hitems with
      | nil => rfl
      | cons h _ ih => rw [List.all_cons, List.all_cons, h.givesCopy_eq, ih]
    exact hall

end Document

namespace Schema

theorem content_isWhole (d : Document) : content.isWhole d = true := rfl

theorem licenseReport_isWhole (d : Document) : licenseReport.isWhole d = d.givesCopy := by
  have huser : ∀ given, (Entry.group "user" user).isWhole given = true := by
    intro given
    cases given <;> rfl
  have hrights : ∀ given, (Entry.group "rights" rights).isWhole given =
      given.all fun g => (g.field? "copy").isSome := by
    intro given
    cases given with
    | none => rfl
    | some g => exact Bool.and_true _
  have hgroups : licenseReport.isWhole d =
      ((Entry.group "user" user).isWhole (d.field? "user") &&
        ((Entry.group "rights" rights).isWhole (d.field? "rights") && true)) := rfl
  rw [hgroups, huser, hrights, Bool.and_true, Bool.true_and, givesCopy]

theorem content_eachWhole (d : Document) : content.eachWhole d = true := by
  cases d with
  | leaf a => rfl
  | object fs => rfl
  | list ds => exact List.all_eq_true.2 fun d _ => content_isWhole d

theorem licenseReport_eachWhole (d : Document) : licenseReport.eachWhole d = d.eachGivesCopy := by
  cases d with
  | leaf a => rfl
  | object fs => rfl
  | list ds => exact congrArg ds.all (funext licenseReport_isWhole)

/-- What has been loaded is dumped with the keys that were given, and loaded again it is the same:
a content and contents always, and licenses as far as their rights, if there are any, have a
`copy`. Without it nothing is dumped. -/
theorem load_settles (v d : Document) :
    (content.load v = .ok d → Settles content.load content.dump true v d) ∧
      (content.loadMany v = .ok d → Settles content.loadMany content.dumpEach true v d) ∧
      (licenseReport.load v = .ok d →
        Settles licenseReport.load licenseReport.dump v.givesCopy v d) ∧
      (licenseReport.loadMany v = .ok d →
        Settles licenseReport.loadMany licenseReport.dumpEach v.eachGivesCopy v d) := by
  refine ⟨fun h => ?_, fun h => ?_, fun h => ?_, fun h => ?_⟩
  · have hsettles := content_wellNamed.settles h
    rwa [content_isWhole] at hsettles
  · have hsettles := content_wellNamed.settles_many h
    rwa [content_eachWhole] at hsettles
  · have hsettles := licenseReport_wellNamed.settles h
    rwa [licenseReport_isWhole, ← givesCopy_external, ← hsettles.keys.givesCopy_eq] at hsettles
  · have hsettles := licenseReport_wellNamed.settles_many h
    rwa [licenseReport_eachWhole, ← eachGivesCopy_external,
      ← hsettles.keys.eachGivesCopy_eq] at hsettles

def givenContent : Document := .object [("length", .text " 1_000 "), ("id", .text "c")]

def loadedContent : Document := .object [("id", .text "c"), ("length", .int 1000)]

def givenReport : Document := .object [
  ("rights", .object [("end", .text "2024-01-02T03:04"), ("copy", .real (.finite (5 / 2)))]),
  ("user", .object []),
  ("id", .text "l"),
  ("issued", .text "20240102T030405.6-0130"),
  ("updated", .null),
  ("lsd_status", .irregular .negativeZero)]

def loadedReport : Document := .object [
  ("id", .text "l"),
  ("issued", .moment ⟨63839761445600000, by decide, some ⟨-5400000000, by decide, by decide⟩⟩),
  ("updated", .null),
  ("user", .object []),
  ("rights", .object [("copy", .int 2), ("end", .moment ⟨63839761440000000, by decide, none⟩)]),
  ("lsd_status", .int 0)]

theorem load_settles_of_report :
    content.load givenContent = .ok loadedContent ∧
      Settles content.load content.dump true givenContent loadedContent ∧
      content.loadMany (.list [givenContent]) = .ok (.list [loadedContent]) ∧
      Settles content.loadMany content.dumpEach true (.list [givenContent]) (.list [loadedContent]) ∧
      licenseReport.load givenReport = .ok loadedReport ∧
      Settles licenseReport.load licenseReport.dump true givenReport loadedReport ∧
      licenseReport.loadMany (.list [givenReport]) = .ok (.list [loadedReport]) ∧
      Settles licenseReport.loadMany licenseReport.dumpEach true (.list [givenReport])
        (.list [loadedReport]) := by
  have hcontent : content.load givenContent = .ok loadedContent :=
    ok_of_toOption (by decide +kernel)
  have hcontents : content.loadMany (.list [givenContent]) = .ok (.list [loadedContent]) :=
    ok_of_toOption (by decide +kernel)
  have hreport : licenseReport.load givenReport = .ok loadedReport :=
    ok_of_toOption (by decide +kernel)
  have hreports : licenseReport.loadMany (.list [givenReport]) = .ok (.list [loadedReport]) :=
    ok_of_toOption (by decide +kernel)
  exact ⟨hcontent, (load_settles givenContent loadedContent).1 hcontent,
    hcontents, (load_settles (.list [givenContent]) (.list [loadedContent])).2.1 hcontents,
    hreport, (load_settles givenReport loadedReport).2.2.1 hreport,
    hreports, (load_settles (.list [givenReport]) (.list [loadedReport])).2.2.2 hreports⟩

/-- Rights that only allow to print are loaded, and then not dumped. -/
theorem dump_of_rights_without_copy :
    let d : Document := .object [("id", .text "x"), ("rights", .object [("print", .int 1)])]
    licenseReport.load d = .ok d ∧ licenseReport.dump d = .error noCopy :=
  ⟨ok_of_toOption (by decide +kernel), rfl⟩

end Schema

end RightsStore
