import RightsStore.Database.Statements
import RightsStore.Proofs.Rows

namespace RightsStore

theorem exists_of_bind_eq_ok {x : Except ε α} {f : α → Except ε β} {b : β}
    (h : x >>= f = .ok b) : ∃ a, x = .ok a ∧ f a = .ok b := by
  cases x with
  | error e => cases h
  | ok a => exact ⟨a, rfl, h⟩

theorem exists_of_map_eq_ok {x : Except ε α} {f : α → β} {b : β} (h : x.map f = .ok b) :
    ∃ a, x = .ok a ∧ f a = b := by
  cases x with
  | error e => cases h
  | ok a => exact ⟨a, rfl, Except.ok.inj h⟩

theorem ok_of_toOption {x : Except ε α} {a : α} (h : x.toOption = some a) : x = .ok a := by
  cases x with
  | error e => cases h
  | ok b => rw [Option.some.inj h]

theorem mapError_eq_ok {f : ε → ε'} {x : Except ε α} {a : α} (h : x.mapError f = .ok a) :
    x = .ok a := by
  cases x with
  | error e => cases h
  | ok b => cases h; rfl

theorem ok_bind (a : α) (f : α → Except ε β) : (Except.ok a >>= f) = f a := rfl

theorem bind_unit_eq_ok {x : Except ε Unit} {y : Except ε β} {b : β} :
    (x >>= fun _ => y) = .ok b ↔ x = .ok () ∧ y = .ok b := by
  cases x with
  | error e =>
    constructor
    · intro h
      cases h
    · rintro ⟨h, -⟩
      cases h
  | ok a => exact ⟨fun h => ⟨rfl, h⟩, fun h => h.2⟩

theorem lookup_eq_none_iff_not_mem {es : List (String × α)} {name : String} :
    es.lookup name = none ↔ name ∉ es.map (·.1) := by
  rw [List.lookup_eq_none_iff, List.mem_map, not_exists]
  refine forall_congr' fun e => ?_
  rw [not_and, bne_iff_ne, ne_comm]

theorem lookup_of_mem {es : List (String × α)} (hnames : (es.map (·.1)).Nodup)
    {e : String × α} (h : e ∈ es) : es.lookup e.1 = some e.2 := by
  obtain ⟨before, after, rfl⟩ := List.append_of_mem h
  rw [List.map_append, List.nodup_append] at hnames
  refine List.lookup_eq_some_iff.2 ⟨before, after, rfl, ?_⟩
  intro other hother
  have hne : other.1 ≠ e.1 := hnames.2.2 other.1 (List.mem_map_of_mem hother) e.1
    (List.mem_map_of_mem List.mem_cons_self)
  simpa using hne.symm

theorem Cell.matches_eq_false_iff {a b : Cell} : a.matches b = false ↔ a = .null ∨ a ≠ b := by
  rw [← Bool.not_eq_true, Cell.matches_iff, not_and_or, not_not]

theorem require_eq_ok {t : Table} {column : String} {c : Cell} :
    require t column c = .ok () ↔ c ≠ .null := by
  by_cases h : c = .null <;> simp [require, h]

theorem ContentRow.checkNulls_eq_ok {r : ContentRow} :
    r.checkNulls = .ok () ↔ r.key ≠ .null ∧ r.location ≠ .null ∧ r.mediaType ≠ .null := by
  simp only [checkNulls, bind_unit_eq_ok, require_eq_ok]

theorem LicenseRow.checkNulls_eq_ok {r : LicenseRow} :
    r.checkNulls = .ok () ↔
      r.userId ≠ .null ∧ r.provider ≠ .null ∧ r.issued ≠ .null ∧ r.contentId ≠ .null := by
  simp only [checkNulls, bind_unit_eq_ok, require_eq_ok]

namespace ContentTable

theorem insert_eq_ok {t t' : ContentTable} {r : ContentRow} (h : t.insert r = .ok t') :
    (r.convert t.layout).checkNulls = .ok () ∧
      (∀ old ∈ t.rows, (r.convert t.layout).id.matches old.id = false) ∧
      t' = { t with entries := t.entries.add (r.convert t.layout) } := by
  simp only [insert, insertNumbered, askedNumber_null] at h
  obtain ⟨hnulls, h⟩ := bind_unit_eq_ok.1 h
  simp only [Rows.checkNumber_none] at h
  obtain ⟨-, h⟩ := bind_unit_eq_ok.1 h
  split at h
  · cases h
  · rename_i hfresh
    rw [Bool.not_eq_true, List.any_eq_false] at hfresh
    cases h
    exact ⟨hnulls, fun old hold => by simpa using hfresh old hold, rfl⟩

def replaced (r old : ContentRow) : ContentRow := if r.id.matches old.id then r else old

theorem update_eq_ok {t t' : ContentTable} {r : ContentRow} (h : t.update r = .ok t') :
    ((∃ old ∈ t.rows, (r.convert t.layout).id.matches old.id = true) →
        (r.convert t.layout).checkNulls = .ok ()) ∧
      t' = { t with entries := t.entries.map (replaced (r.convert t.layout)) } := by
  rw [update] at h
  split at h
  · obtain ⟨hnulls, h⟩ := bind_unit_eq_ok.1 h
    cases h
    exact ⟨fun _ => hnulls, rfl⟩
  · rename_i hnone
    rw [List.any_eq_true] at hnone
    cases h
    exact ⟨fun hsome => absurd hsome hnone, rfl⟩

end ContentTable

namespace LicenseTable

theorem checkReference_eq_ok {contents : List ContentRow} {r : LicenseRow} :
    checkReference (some contents) r = .ok () ↔ ∃ c ∈ contents, r.contentId.matches c.id = true := by
  simp [checkReference]

theorem insert_eq_ok {t t' : LicenseTable} {r : LicenseRow} (h : t.insert r = .ok t') :
    r.convert.checkNulls = .ok () ∧
      (∀ old ∈ t.rows, r.convert.id.matches old.id = false) ∧
      t' = { t with entries := t.entries.add r.convert } := by
  simp only [insert, insertNumbered, askedNumber_null] at h
  obtain ⟨hnulls, h⟩ := bind_unit_eq_ok.1 h
  simp only [Rows.checkNumber_none] at h
  obtain ⟨-, h⟩ := bind_unit_eq_ok.1 h
  split at h
  · cases h
  · rename_i hfresh
    rw [Bool.not_eq_true, List.any_eq_false] at hfresh
    cases h
    exact ⟨hnulls, fun old hold => by simpa using hfresh old hold, rfl⟩

def merged (new : LicenseRow) (merge : (old new : LicenseRow) → LicenseRow) (old : LicenseRow) :
    LicenseRow :=
  if new.id.matches old.id then merge old new else old

theorem merged_of_not {new old : LicenseRow} {merge : (old new : LicenseRow) → LicenseRow}
    (h : new.id.matches old.id = false) : merged new merge old = old := by
  rw [merged, h]
  rfl

theorem merged_of_matches {new old : LicenseRow} {merge : (old new : LicenseRow) → LicenseRow}
    (h : new.id.matches old.id = true) : merged new merge old = merge old new := by
  rw [merged, h]
  rfl

theorem map_merged_of_forall_not {t : LicenseTable} {new : LicenseRow}
    {merge : (old new : LicenseRow) → LicenseRow}
    (h : ∀ old ∈ t.rows, new.id.matches old.id = false) :
    t.entries.map (merged new merge) = t.entries := by
  have hmap : ∀ e ∈ t.entries.entries, (e.1, merged new merge e.2) = e := by
    intro e he
    rw [merged_of_not (h e.2 (List.mem_map_of_mem he))]
  rw [Rows.map, List.map_congr_left hmap, List.map_id']

/-- A change that counts no row changes nothing, and one that counts a row has checked it. -/
theorem modify_eq_ok {t t' : LicenseTable} {new : LicenseRow} {n : Nat}
    {merge : (old new : LicenseRow) → LicenseRow} {check : LicenseRow → Executed Unit}
    (h : t.modify new merge check = .ok (t', n)) :
    t' = { t with entries := t.entries.map (merged new.convert merge) } ∧
      (n = 0 ∧ t' = t ∨
        n = 1 ∧ ∃ old, t.rows.find? (new.convert.id.matches ·.id) = some old ∧
          check (merge old new.convert) = .ok ()) := by
  rw [modify] at h
  split at h
  · rename_i hnone
    cases h
    rw [List.find?_eq_none] at hnone
    have hnot : ∀ old ∈ t.rows, new.convert.id.matches old.id = false := by
      intro old hold
      simpa using hnone old hold
    rw [map_merged_of_forall_not hnot]
    exact ⟨rfl, .inl ⟨rfl, rfl⟩⟩
  · rename_i old hsome
    obtain ⟨hcheck, h⟩ := bind_unit_eq_ok.1 h
    cases h
    exact ⟨rfl, .inr ⟨rfl, old, hsome, hcheck⟩⟩

end LicenseTable

end RightsStore
