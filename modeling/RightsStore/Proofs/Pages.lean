import Mathlib.Data.List.Infix
import RightsStore.Proofs.Integrity
import RightsStore.Proofs.LastWrites

namespace RightsStore

section Pages

variable {α β : Type} {p k : Nat} {L : Nat → List α}

def page (p i : Nat) (as : List α) : List α := (as.drop (i * p)).take p

/-- Pages 0 to `k`, each of the list as it is by then. -/
def pages (p : Nat) (L : Nat → List α) (k : Nat) : List α :=
  (List.range (k + 1)).flatMap fun i => page p i (L i)

theorem map_page (f : α → β) (p i : Nat) (as : List α) :
    (page p i as).map f = page p i (as.map f) := by
  rw [page, page, List.map_take, List.map_drop]

theorem take_succ_page (p k : Nat) (as : List α) :
    as.take ((k + 1) * p) = as.take (k * p) ++ page p k as := by
  rw [Nat.succ_mul, List.take_add, page]

theorem pages_zero (p : Nat) (L : Nat → List α) : pages p L 0 = (L 0).take p := by
  simp [pages, page]

theorem pages_succ (p : Nat) (L : Nat → List α) (k : Nat) :
    pages p L (k + 1) = pages p L k ++ page p (k + 1) (L (k + 1)) := by
  rw [pages, List.range_succ, List.flatMap_append, List.flatMap_singleton]
  rfl

/-- Lists that only grow at their ends give nothing that the last one has not, and in its order. -/
theorem pages_sublist (hL : ∀ i < k, L i <+: L (i + 1)) :
    (pages p L k).Sublist ((L k).take ((k + 1) * p)) := by
  induction k with
  | zero =>
    rw [pages_zero, Nat.zero_add, Nat.one_mul]
  | succ k ih =>
    rw [pages_succ, take_succ_page]
    refine List.Sublist.append ?_ (.refl _)
    have hgrows := (hL k (Nat.lt_succ_self k)).take ((k + 1) * p)
    exact (ih fun i hi => hL i (Nat.lt_succ_of_lt hi)).trans hgrows.sublist

theorem prefix_of_le (hL : ∀ i < k, L i <+: L (i + 1)) {i : Nat} (hi : i ≤ k) : L 0 <+: L i := by
  induction i with
  | zero => exact List.prefix_refl _
  | succ i ih => exact (ih (Nat.le_of_succ_le hi)).trans (hL i hi)

theorem sublist_pages (hL : ∀ i < k, L i <+: L (i + 1)) :
    ((L 0).take ((k + 1) * p)).Sublist (pages p L k) := by
  induction k with
  | zero =>
    rw [pages_zero, Nat.zero_add, Nat.one_mul]
  | succ k ih =>
    rw [pages_succ, take_succ_page]
    refine List.Sublist.append (ih fun i hi => hL i (Nat.lt_succ_of_lt hi)) ?_
    have hgrows := prefix_of_le hL (Nat.le_refl _)
    exact ((hgrows.drop _).take p).sublist

theorem pages_of_same {as : List α} (hL : ∀ i ≤ k, L i = as) :
    pages p L k = as.take ((k + 1) * p) := by
  induction k with
  | zero => rw [pages_zero, hL 0 (Nat.le_refl 0), Nat.zero_add, Nat.one_mul]
  | succ k ih =>
    rw [pages_succ, take_succ_page, ih fun i hi => hL i (Nat.le_succ_of_le hi),
      hL (k + 1) (Nat.le_refl _)]

end Pages

structure LicenseRow.Stamped (r : LicenseRow) : Prop where
  issued : r.issued.IsStamp
  updated : r.updated.IsStamp
  start : r.start.IsStamp
  stop : r.stop.IsStamp

theorem Cell.IsWholeStamp.isStamp {c : Cell} (h : c.IsWholeStamp) : c.IsStamp := by
  rcases h with hnull | ⟨u, hu, -⟩
  · exact .inl hnull
  · exact .inr ⟨u, hu⟩

theorem Cell.IsStamp.readStamp {c : Cell} (h : c.IsStamp) : ∃ s, c.readStamp = .ok s := by
  rcases h with rfl | ⟨u, hu⟩
  · exact ⟨.null, rfl⟩
  · exact ⟨_, readStamp_of_isMoment hu⟩

theorem LicenseRow.Stamped.read {r : LicenseRow} (h : r.Stamped) :
    ∃ item, licenseItem r = .ok item := by
  obtain ⟨issued, hissued⟩ := h.issued.readStamp
  obtain ⟨updated, hupdated⟩ := h.updated.readStamp
  obtain ⟨start, hstart⟩ := h.start.readStamp
  obtain ⟨stop, hstop⟩ := h.stop.readStamp
  rw [licenseItem, LicenseRow.read_eq hissued hupdated hstart hstop]
  exact ⟨_, rfl⟩

/-- What a step may do to the license rows: an addition puts one behind all others, and a change
leaves each in its place, with its issue and, unless it is an update, with its content. -/
inductive Step.LicensesChange (x : Step) (t t' : Rows LicenseRow) : Prop
  | none : t' = t → LicensesChange x t t'
  | added {r : LicenseRow} (l : License) : x = .addLicense l → r.Stamped → t' = t.add r →
    LicensesChange x t t'
  | changed {f : LicenseRow → LicenseRow} : t' = t.map f → (∀ r, r.Stamped → (f r).Stamped) →
    (∀ r, (f r).issued = r.issued) →
    (∀ r, (∃ l clock, x = .updateLicense l clock) ∨ (f r).contentId = r.contentId) →
    LicensesChange x t t'

theorem Step.licensesChange_merged {x : Step} {t : Rows LicenseRow} {new : LicenseRow}
    {merge : (old new : LicenseRow) → LicenseRow}
    (hstamped : ∀ r : LicenseRow, r.Stamped → (merge r new).Stamped)
    (hissued : ∀ r, (merge r new).issued = r.issued)
    (hcontent : ∀ r, (∃ l clock, x = .updateLicense l clock) ∨
      (merge r new).contentId = r.contentId) :
    x.LicensesChange t (t.map (LicenseTable.merged new merge)) := by
  have hcases : ∀ r, LicenseTable.merged new merge r = merge r new ∨
      LicenseTable.merged new merge r = r := by
    intro r
    rw [LicenseTable.merged]
    split
    · exact .inl rfl
    · exact .inr rfl
  refine .changed rfl ?_ ?_ ?_
  · intro r hr
    rcases hcases r with h | h <;> rw [h]
    · exact hstamped r hr
    · exact hr
  · intro r
    rcases hcases r with h | h <;> rw [h]
    exact hissued r
  · intro r
    rcases hcases r with h | h <;> rw [h]
    · exact hcontent r
    · exact .inr rfl

theorem Step.Effect.licenses {d : Dialect} {enforce ok : Bool} {x : Step} {db db' : Database}
    (h : x.Effect d enforce ok db db') : x.LicensesChange db.licenseEntries db'.licenseEntries := by
  cases h with
  | failed => exact .none rfl
  | read => exact .none rfl
  | prepared hlicense => exact .none hlicense
  | opened => exact .none (db.openAll_grows d _).license
  | contentAdded hadd =>
    obtain ⟨_, _, _, -, -, -, rfl⟩ := ContentIndex.add_eq_ok hadd
    exact .none rfl
  | contentUpdated hupdate =>
    obtain ⟨_, _, _, -, -, -, rfl⟩ := ContentIndex.update_eq_ok hupdate
    exact .none rfl
  | licenseAdded hadd =>
    obtain ⟨t, t', r, ht, hr, hinsert, rfl⟩ := LicenseStore.add_eq_ok hadd
    obtain ⟨-, -, -, rfl⟩ := LicenseTable.enter_eq_ok hinsert
    rw [Database.licenseEntries_eq ht]
    refine .added _ rfl ?_ rfl
    exact {
      issued := Stamp.isStamp_of_bind hr.issued
      updated := .inl (congrArg Affinity.numeric.convert hr.updated)
      start := Stamp.isStamp_of_bind hr.rights.start
      stop := Stamp.isStamp_of_bind hr.rights.stop }
  | licenseUpdated hupdate =>
    obtain ⟨t, t', n, r, ht, hr, hmodify, rfl⟩ := LicenseStore.update_eq_ok hupdate
    obtain ⟨rfl, -⟩ := LicenseTable.modify_eq_ok hmodify
    rw [Database.licenseEntries_eq ht]
    refine Step.licensesChange_merged ?_ (fun _ => rfl) fun _ => .inl ⟨_, _, rfl⟩
    intro old hold
    exact {
      issued := hold.issued
      updated := hr.updated.convert.isWholeStamp.isStamp
      start := Stamp.isStamp_of_bind hr.rights.start
      stop := Stamp.isStamp_of_bind hr.rights.stop }
  | rightsUpdated hupdate =>
    obtain ⟨t, t', r, ht, hr, hmodify, rfl⟩ := LicenseStore.updateRights_eq_ok hupdate
    obtain ⟨rfl, -⟩ := LicenseTable.modify_eq_ok hmodify
    rw [Database.licenseEntries_eq ht]
    refine Step.licensesChange_merged ?_ (fun _ => rfl) fun _ => .inr rfl
    intro old hold
    exact {
      issued := hold.issued
      updated := hr.updated.convert.isWholeStamp.isStamp
      start := Stamp.isStamp_of_bind hr.rights.start
      stop := Stamp.isStamp_of_bind hr.rights.stop }
  | statusSet hset =>
    obtain ⟨t, t', n, r, ht, -, hmodify, rfl⟩ := LicenseStore.setStatus_eq_ok hset
    obtain ⟨rfl, -⟩ := LicenseTable.modify_eq_ok hmodify
    rw [Database.licenseEntries_eq ht]
    refine Step.licensesChange_merged ?_ (fun _ => rfl) fun _ => .inr rfl
    intro old hold
    exact ⟨hold.issued, hold.updated, hold.start, hold.stop⟩

namespace Database

def licensesOf (db : Database) (c : String) : List (Int × LicenseRow) :=
  db.licenseEntries.entries.filter fun e => e.2.contentId = .text c

def newestFirst (db : Database) : List (Int × LicenseRow) :=
  db.licenseEntries.entries.mergeSort fun a b => !a.2.issued.lt b.2.issued

theorem ofContent_eq {db : Database} {t : LicenseTable} (h : db.license = some t) (c : String) :
    t.ofContent (.text c) = (db.licensesOf c).map (·.2) := by
  have hmatches : (fun r : LicenseRow => (Cell.text c).matches r.contentId) =
      fun r => decide (r.contentId = .text c) := by
    funext r
    rw [Bool.eq_iff_iff, Cell.matches_iff]
    simp [eq_comm]
  rw [licensesOf, licenseEntries_eq h]
  change (t.entries.entries.map (·.2)).filter (fun r => (Cell.text c).matches r.contentId) = _
  rw [hmatches, List.filter_map]
  rfl

theorem byIssued_eq {db : Database} {t : LicenseTable} (h : db.license = some t) :
    t.byIssued = db.newestFirst.map (·.2) := by
  rw [newestFirst, licenseEntries_eq h]
  change (t.entries.entries.map (·.2)).mergeSort _ = _
  symm
  apply List.map_mergeSort
  intro a _ b _
  rfl

end Database

theorem Window.exists_page (p i : Nat) (as : List α) :
    ∃ w, Window.ofCells (.int p) (.int (i * p)) = .ok w ∧ w.apply as = page p i as := by
  by_cases hp : (p : Int) = 0
  · refine ⟨⟨0, 0⟩, ?_, ?_⟩
    · simp only [Window.ofCells, Window.whole_int, hp]
      rfl
    · cases Int.natCast_eq_zero.1 hp
      simp [Window.apply, page]
  · refine ⟨⟨p, i * p⟩, ?_, ?_⟩
    · simp only [Window.ofCells, Window.whole_int]
      change (if (p : Int) = 0 then _ else _) = _
      rw [if_neg hp]
      rfl
    · have hoffset : ((i : Int) * p).toNat = i * p := by
        rw [← Int.natCast_mul, Int.toNat_natCast]
      have hlimit : ¬(p : Int) < 0 := Int.not_lt.2 (Int.natCast_nonneg p)
      rw [Window.apply, if_neg hlimit, hoffset, Int.toNat_natCast, page]

namespace LicenseStore

variable {db : Database} {t : LicenseTable} {p i : Nat}

theorem list_eq (ht : db.license = some t) (c : String) (size number : Int) :
    list db (.text c) (.int size) (.int number) =
      (Page.mk (.int size) (.int (number * size))).bind 2 >>= fun q =>
        Window.ofCells q.1 q.2 >>= fun w => .ok (w.apply ((db.licensesOf c).map (·.2))) := by
  have hcontent : (Datum.text c).bind 1 = .ok (.text c) := rfl
  rw [list, Page.of_int, ok_bind, LicenseStore.listPage, table_eq_ok.2 ht, ok_bind, hcontent, ok_bind,
    ← db.ofContent_eq ht]
  rfl

theorem listAll_eq (ht : db.license = some t) (size number : Int) :
    listAll db (.int size) (.int number) =
      (Page.mk (.int size) (.int (number * size))).bind 1 >>= fun q =>
        Window.ofCells q.1 q.2 >>= fun w => .ok (w.apply (db.newestFirst.map (·.2))) := by
  rw [listAll, Page.of_int, ok_bind, listAllPage, table_eq_ok.2 ht, ok_bind, ← db.byIssued_eq ht]
  rfl

theorem list_page (ht : db.license = some t) (hp : fitsWord p = true)
    (hi : fitsWord (i * p) = true) (c : String) :
    list db (.text c) (.int p) (.int i) = .ok ((page p i (db.licensesOf c)).map (·.2)) := by
  obtain ⟨w, hw, happly⟩ := Window.exists_page p i ((db.licensesOf c).map (·.2))
  rw [list_eq ht, Page.bind_int hp hi, ok_bind, hw, ok_bind, happly, map_page]

theorem listAll_page (ht : db.license = some t) (hp : fitsWord p = true)
    (hi : fitsWord (i * p) = true) :
    listAll db (.int p) (.int i) = .ok ((page p i db.newestFirst).map (·.2)) := by
  obtain ⟨w, hw, happly⟩ := Window.exists_page p i (db.newestFirst.map (·.2))
  rw [listAll_eq ht, Page.bind_int hp hi, ok_bind, hw, ok_bind, happly, map_page]

theorem list_of_not_fitsWord (ht : db.license = some t) {size : Int}
    (hsize : fitsWord size = false) (c : String) (number : Int) :
    list db (.text c) (.int size) (.int number) = .error .integerRange := by
  rw [list_eq ht, Page.bind, Datum.bind, hsize]
  rfl

theorem list_unpaged (ht : db.license = some t) (c : String) :
    list db (.text c) (.int (-1)) (.int 0) = .ok ((db.licensesOf c).map (·.2)) := by
  rw [list_eq ht, Page.bind_int rfl rfl, ok_bind]
  rfl

theorem listAll_unpaged (ht : db.license = some t) :
    listAll db (.int (-1)) (.int 0) = .ok (db.newestFirst.map (·.2)) := by
  rw [listAll_eq ht, Page.bind_int rfl rfl, ok_bind]
  rfl

end LicenseStore

def Step.listPage (c : String) (p i : Nat) : Step := .listLicenses (.text c) (.int p) (.int i)

def Step.listAllPage (p i : Nat) : Step := .listAllLicenses (.int p) (.int i)

namespace Session

def numbers (entries : List (Int × LicenseRow)) : List Int := entries.map (·.1)

/-- A step answers with these rows of the license table, in this order. -/
structure Gives (s : Session) (x : Step) (entries : List (Int × LicenseRow)) : Prop where
  held : ∀ e ∈ entries, e ∈ s.database.licenseEntries.entries
  answer : ∃ items, (s.step x).1.answer = .ok (.items items) ∧
    List.Forall₂ (fun e item => licenseItem e.2 = .ok item) entries items

/-- The session in which page `i` is read: page after page, with other steps in each gap. -/
def atPage (s : Session) (read : Nat → Step) (gap : Nat → List Step) : Nat → Session
  | 0 => s
  | i + 1 => (((s.atPage read gap i).step (read i)).2.run (gap i)).2

/-- Pages 0 to `k`, each read in its session, give the rows of these numbers. -/
def Walks (s : Session) (read : Nat → Step) (gap : Nat → List Step) (k : Nat) (given : List Int) :
    Prop :=
  ∃ entries : Nat → List (Int × LicenseRow),
    (∀ i ≤ k, (s.atPage read gap i).Gives (read i) (entries i)) ∧
      given = (List.range (k + 1)).flatMap fun i => numbers (entries i)

def Follows (allowed : Session → Step → Prop) (s : Session) : List Step → Prop
  | [] => True
  | x :: xs => allowed s x ∧ (s.step x).2.Follows allowed xs

def KeepsContents (s : Session) : Step → Prop
  | .insertRaw .. => False
  | .updateLicense l clock =>
    (s.step (.updateLicense l clock)).2.database.licenseRows.map (·.contentId) =
      s.database.licenseRows.map (·.contentId)
  | _ => True

def AddsNone (_ : Session) : Step → Prop
  | .insertRaw .. => False
  | .addLicense _ => False
  | _ => True

variable {s : Session}

theorem KeepsContents.isRaw {x : Step} (h : s.KeepsContents x) : x.isRaw = false := by
  cases x with
  | insertRaw table values => exact h.elim
  | _ => rfl

theorem AddsNone.isRaw {x : Step} (h : s.AddsNone x) : x.isRaw = false := by
  cases x with
  | insertRaw table values => exact h.elim
  | _ => rfl

structure Orderly (s : Session) : Prop where
  backed : s.Backed .license
  ordered : s.database.licenseEntries.Consecutive
  stamped : ∀ r ∈ s.database.licenseEntries.toList, r.Stamped

theorem Orderly.step (h : s.Orderly) {x : Step} (hx : x.isRaw = false) : (s.step x).2.Orderly := by
  have hbacked := (backed_step h.backed x).1
  cases (s.step_effect hx).licenses with
  | none hsame =>
    refine ⟨hbacked, ?_, ?_⟩
    · rw [hsame]
      exact h.ordered
    · rw [hsame]
      exact h.stamped
  | @added r l _ hr hadd =>
    refine ⟨hbacked, ?_, ?_⟩
    · rw [hadd]
      exact h.ordered.add r
    · rw [hadd, h.ordered.toList_add, List.forall_mem_append, List.forall_mem_singleton]
      exact ⟨h.stamped, hr⟩
  | @changed f hchange hstamped _ _ =>
    refine ⟨hbacked, ?_, ?_⟩
    · rw [hchange]
      exact h.ordered.map f
    · rw [hchange, Rows.toList_map, List.forall_mem_map]
      exact fun r hr => hstamped r (h.stamped r hr)

theorem orderly_run (d : Dialect) {w : Wiring} (draws : Draws) (hw : w.isFresh = true)
    {xs : List Step} (hxs : ∀ x ∈ xs, x.isRaw = false) :
    ((start d w draws).run xs).2.Orderly := by
  have hstart : (start d w draws).Orderly := by
    refine ⟨backed_start d draws hw .license, .empty _, ?_⟩
    intro r hr
    cases hr
  exact run_induction hstart (fun _ _ h hx => h.step hx) hxs

theorem numbers_licensesOf (db : Database) (c : String) :
    numbers (db.licensesOf c) =
      ((db.licenseEntries.entries.map fun e => (e.1, e.2.contentId)).filter (·.2 = .text c)).map
        (·.1) := by
  rw [List.filter_map, List.map_map]
  rfl

theorem Orderly.prefix_licensesOf (h : s.Orderly) {x : Step} (hx : s.KeepsContents x)
    (c : String) : numbers (s.database.licensesOf c) <+:
      numbers ((s.step x).2.database.licensesOf c) := by
  rw [numbers_licensesOf, numbers_licensesOf]
  refine List.IsPrefix.map _ (List.IsPrefix.filter _ ?_)
  cases (s.step_effect hx.isRaw).licenses with
  | none hsame => rw [hsame]
  | @added r l _ _ hadd =>
    rw [hadd, h.ordered.entries_add, List.map_append]
    exact List.prefix_append _ _
  | @changed f hchange _ _ hcontent =>
    have hkept : ∀ e ∈ s.database.licenseEntries.entries, (f e.2).contentId = e.2.contentId := by
      intro e he
      rcases hcontent e.2 with ⟨l, clock, rfl⟩ | hsame
      · have hall := hx
        rw [KeepsContents, Database.licenseRows_eq, Database.licenseRows_eq, hchange,
          Rows.toList_map, List.map_map, List.map_inj_left] at hall
        exact hall e.2 (List.mem_map_of_mem he)
      · exact hsame
    rw [hchange, Rows.map, List.map_map]
    have hsame : s.database.licenseEntries.entries.map
        ((fun e => (e.1, e.2.contentId)) ∘ fun e => (e.1, f e.2)) =
        s.database.licenseEntries.entries.map fun e => (e.1, e.2.contentId) :=
      List.map_congr_left fun e he => congrArg (Prod.mk e.1) (hkept e he)
    rw [hsame]

theorem AddsNone.numbers_newestFirst {x : Step} (hx : s.AddsNone x) :
    numbers (s.step x).2.database.newestFirst = numbers s.database.newestFirst := by
  unfold Database.newestFirst
  cases (s.step_effect hx.isRaw).licenses with
  | none hsame => rw [hsame]
  | added l hadd =>
    subst hadd
    exact hx.elim
  | @changed f hchange _ hissued _ =>
    have hsort : (s.database.licenseEntries.entries.map fun e => (e.1, f e.2)).mergeSort
        (fun a b => !a.2.issued.lt b.2.issued) =
        (s.database.licenseEntries.entries.mergeSort fun a b => !a.2.issued.lt b.2.issued).map
          fun e => (e.1, f e.2) := by
      symm
      apply List.map_mergeSort
      intro a _ b _
      rw [hissued, hissued]
    rw [hchange, Rows.map, hsort, numbers, List.map_map]
    rfl

theorem Follows.run {allowed : Session → Step → Prop} {P : Session → Prop}
    {R : Session → Session → Prop} (refl : ∀ s, R s s)
    (trans : ∀ s s' s'', R s s' → R s' s'' → R s s'')
    (step : ∀ s x, P s → allowed s x → P (s.step x).2 ∧ R s (s.step x).2) {xs : List Step}
    (hs : P s) (hxs : s.Follows allowed xs) : P (s.run xs).2 ∧ R s (s.run xs).2 := by
  induction xs generalizing s with
  | nil => exact ⟨hs, refl s⟩
  | cons x xs ih =>
    obtain ⟨hP, hR⟩ := step s x hs hxs.1
    obtain ⟨hP', hR'⟩ := ih hP hxs.2
    exact ⟨hP', trans _ _ _ hR hR'⟩

structure Readable (s : Session) : Prop where
  orderly : s.Orderly
  isOpen : s.isOpen .license = true

theorem Readable.step (h : s.Readable) {x : Step} (hx : x.isRaw = false) :
    (s.step x).2.Readable :=
  ⟨h.orderly.step hx, isOpen_step h.isOpen x⟩

theorem atPage_induction {allowed : Session → Step → Prop} {R : Session → Session → Prop}
    {read : Nat → Step} {gap : Nat → List Step} {k : Nat}
    (refl : ∀ s, R s s) (trans : ∀ s s' s'', R s s' → R s' s'' → R s s'')
    (step : ∀ s x, s.Readable → allowed s x → (s.step x).2.Readable ∧ R s (s.step x).2)
    (hread : ∀ s i, (Session.step s (read i)).2 = s) (hs : s.Readable)
    (hgap : ∀ i < k, ((s.atPage read gap i).step (read i)).2.Follows allowed (gap i)) :
    (∀ i ≤ k, (s.atPage read gap i).Readable) ∧
      ∀ i < k, R (s.atPage read gap i) (s.atPage read gap (i + 1)) := by
  have hnext : ∀ i < k, (s.atPage read gap i).Readable →
      (s.atPage read gap (i + 1)).Readable ∧
        R (s.atPage read gap i) (s.atPage read gap (i + 1)) := by
    intro i hi hreadable
    have hfollows := hgap i hi
    rw [atPage, hread] at *
    exact hfollows.run refl trans step hreadable
  have hreadable : ∀ i ≤ k, (s.atPage read gap i).Readable := by
    intro i
    induction i with
    | zero => exact fun _ => hs
    | succ i ih => exact fun hi => (hnext i hi (ih (Nat.le_of_succ_le hi))).1
  exact ⟨hreadable, fun i hi => (hnext i hi (hreadable i (Nat.le_of_lt hi))).2⟩

theorem exists_items {entries : List (Int × LicenseRow)} (h : ∀ e ∈ entries, e.2.Stamped) :
    ∃ items, List.Forall₂ (fun e item => licenseItem e.2 = .ok item) entries items ∧
      (entries.map (·.2)).map licenseItem = items.map .ok := by
  induction entries with
  | nil => exact ⟨[], .nil, rfl⟩
  | cons e entries ih =>
    rw [List.forall_mem_cons] at h
    obtain ⟨item, hitem⟩ := h.1.read
    obtain ⟨items, hitems, hmap⟩ := ih h.2
    refine ⟨item :: items, .cons hitem hitems, ?_⟩
    rw [List.map_cons, List.map_cons, List.map_cons, hmap, hitem]

theorem Readable.gives (h : s.Readable) {x : Step} {entries : List (Int × LicenseRow)}
    (hheld : ∀ e ∈ entries, e ∈ s.database.licenseEntries.entries)
    (hstep : s.step x = s.onStore .license
      (s.listing (.ok (entries.map (·.2))) licenseItem answerItems)) : s.Gives x entries := by
  have hstamped : ∀ e ∈ entries, e.2.Stamped := by
    intro e he
    exact h.orderly.stamped e.2 (List.mem_map_of_mem (hheld e he))
  obtain ⟨items, hitems, hmap⟩ := exists_items hstamped
  refine ⟨hheld, items, ?_, hitems⟩
  rw [hstep, onStore, if_pos h.isOpen]
  simp only [listing, Cursor.ofRows, Cursor.drain, hmap, Stream.remaining_map_ok]
  rfl

theorem Readable.gives_listLicenses (h : s.Readable) (c : String) {p i : Nat}
    (hp : fitsWord p = true) (hi : fitsWord (i * p) = true) :
    s.Gives (.listPage c p i) (page p i (s.database.licensesOf c)) := by
  obtain ⟨t, ht⟩ := Option.isSome_iff_exists.1 (h.orderly.backed.isOpen h.isOpen)
  refine h.gives ?_ ?_
  · intro e he
    exact (List.mem_filter.1 (List.mem_of_mem_drop (List.mem_of_mem_take he))).1
  · rw [Step.listPage, step_eq, outcome, LicenseStore.list_page ht hp hi]

theorem Readable.gives_listAllLicenses (h : s.Readable) {p i : Nat} (hp : fitsWord p = true)
    (hi : fitsWord (i * p) = true) :
    s.Gives (.listAllPage p i) (page p i s.database.newestFirst) := by
  obtain ⟨t, ht⟩ := Option.isSome_iff_exists.1 (h.orderly.backed.isOpen h.isOpen)
  refine h.gives ?_ ?_
  · intro e he
    exact List.mem_mergeSort.1 (List.mem_of_mem_drop (List.mem_of_mem_take he))
  · rw [Step.listAllPage, step_eq, outcome, LicenseStore.listAll_page ht hp hi]

theorem Readable.gives_unpaged (h : s.Readable) (c : String) :
    s.Gives (.listLicenses (.text c) (.int (-1)) (.int 0)) (s.database.licensesOf c) ∧
      s.Gives (.listAllLicenses (.int (-1)) (.int 0)) s.database.newestFirst := by
  obtain ⟨t, ht⟩ := Option.isSome_iff_exists.1 (h.orderly.backed.isOpen h.isOpen)
  refine ⟨h.gives ?_ ?_, h.gives ?_ ?_⟩
  · intro e he
    exact (List.mem_filter.1 he).1
  · rw [Session.step_eq, Session.outcome, LicenseStore.list_unpaged ht]
  · intro e he
    exact List.mem_mergeSort.1 he
  · rw [Session.step_eq, Session.outcome, LicenseStore.listAll_unpaged ht]

theorem Readable.answer_listLicenses_of_not_fitsWord (h : s.Readable) {size : Int}
    (hsize : fitsWord size = false) (c : String) (number : Int) :
    (s.step (.listLicenses (.text c) (.int size) (.int number))).1.answer =
      .error .integerRange := by
  obtain ⟨t, ht⟩ := Option.isSome_iff_exists.1 (h.orderly.backed.isOpen h.isOpen)
  rw [Session.step_eq, Session.outcome, LicenseStore.list_of_not_fitsWord ht hsize, onStore,
    if_pos h.isOpen]
  rfl

theorem Orderly.pairwise_licensesOf (h : s.Orderly) (c : String) :
    (numbers (s.database.licensesOf c)).Pairwise (· < ·) := by
  have hsublist : (numbers (s.database.licensesOf c)).Sublist s.database.licenseEntries.numbers :=
    List.filter_sublist.map _
  have hall : s.database.licenseEntries.numbers.Pairwise (· < ·) := by
    rw [h.ordered]
    exact Rows.pairwise_firstNumbers _
  exact hall.sublist hsublist

theorem fitsWord_page {p i k : Nat} (hi : i ≤ k) (hk : fitsWord (k * p) = true) :
    fitsWord (i * p) = true := by
  have hle : i * p ≤ k * p := Nat.mul_le_mul_right p hi
  rw [← Int.natCast_mul] at hk ⊢
  simp only [fitsWord, Bool.and_eq_true, decide_eq_true_eq] at hk ⊢
  omega

theorem flatMap_numbers {p k : Nat} (L : Nat → List (Int × LicenseRow)) :
    ((List.range (k + 1)).flatMap fun i => numbers (page p i (L i))) =
      pages p (fun i => numbers (L i)) k := by
  simp only [numbers, map_page]
  rfl

theorem Readable.walks_listPage (h : s.Readable) {p k : Nat} (hp : fitsWord p = true)
    (hk : fitsWord (k * p) = true) {c : String} {gap : Nat → List Step}
    (hgap : ∀ i < k, ((s.atPage (.listPage c p) gap i).step (.listPage c p i)).2.Follows
      KeepsContents (gap i)) :
    ∃ given, s.Walks (.listPage c p) gap k given ∧ given.Pairwise (· < ·) ∧
      ((s.database.licensesOf c).length ≤ (k + 1) * p →
        (numbers (s.database.licensesOf c)).Sublist given) := by
  have hread : ∀ (s : Session) i, (s.step (.listPage c p i)).2 = s := by
    intro s i
    rw [step_eq]
    exact s.onStore_listing_snd ..
  obtain ⟨hreadable, hgrows⟩ := atPage_induction
    (R := fun s s' => numbers (s.database.licensesOf c) <+: numbers (s'.database.licensesOf c))
    (fun _ => List.prefix_refl _) (fun _ _ _ => List.IsPrefix.trans)
    (fun s x h hx => ⟨h.step hx.isRaw, h.orderly.prefix_licensesOf hx c⟩) hread h hgap
  have hlast := (hreadable k (Nat.le_refl k)).orderly.pairwise_licensesOf c
  refine ⟨pages p (fun i => numbers ((s.atPage (.listPage c p) gap i).database.licensesOf c)) k,
    ⟨_, ?_, (flatMap_numbers _).symm⟩, ?_, ?_⟩
  · intro i hi
    exact (hreadable i hi).gives_listLicenses c hp (fitsWord_page hi hk)
  · exact hlast.sublist ((pages_sublist hgrows).trans (List.take_sublist ..))
  · intro hlength
    have hreached : (numbers (s.database.licensesOf c)).length ≤ (k + 1) * p := by
      rw [numbers, List.length_map]
      exact hlength
    rw [← List.take_of_length_le hreached]
    exact sublist_pages hgrows

theorem Readable.walks_listAllPage (h : s.Readable) {p k : Nat} (hp : fitsWord p = true)
    (hk : fitsWord (k * p) = true) {gap : Nat → List Step}
    (hgap : ∀ i < k, ((s.atPage (.listAllPage p) gap i).step (.listAllPage p i)).2.Follows
      AddsNone (gap i)) :
    s.Walks (.listAllPage p) gap k ((numbers s.database.newestFirst).take ((k + 1) * p)) := by
  have hread : ∀ (s : Session) i, (s.step (.listAllPage p i)).2 = s := by
    intro s i
    rw [step_eq]
    exact s.onStore_listing_snd ..
  obtain ⟨hreadable, hsame⟩ := atPage_induction
    (R := fun s s' => numbers s'.database.newestFirst = numbers s.database.newestFirst)
    (fun _ => rfl) (fun _ _ _ h h' => h'.trans h)
    (fun s x h hx => ⟨h.step hx.isRaw, hx.numbers_newestFirst⟩) hread h hgap
  have hfirst : ∀ i ≤ k, numbers (s.atPage (.listAllPage p) gap i).database.newestFirst =
      numbers s.database.newestFirst := by
    intro i
    induction i with
    | zero => exact fun _ => rfl
    | succ i ih => exact fun hi => (hsame i hi).trans (ih (Nat.le_of_succ_le hi))
  refine ⟨_, ?_, ((flatMap_numbers _).trans (pages_of_same hfirst)).symm⟩
  intro i hi
  exact (hreadable i hi).gives_listAllLicenses hp (fitsWord_page hi hk)

/-- Page after page is read while the store goes on. Of the licenses of a content, none is given
twice, and those that were there at first are all given, in the order of their additions, if the
pages reach that far: whatever is done meanwhile, but for updates that change the content of a
license. Of all licenses, those are given that came first by then, as long as none is added. -/
theorem pages_walked (d : Dialect) {w : Wiring} (draws : Draws) (hw : w.isFresh = true)
    {xs : List Step} (hxs : ∀ x ∈ xs, x.isRaw = false)
    (hopen : ((start d w draws).run xs).2.licenses = true)
    {p k : Nat} (hp : fitsWord p = true) (hk : fitsWord (k * p) = true) :
    let s := ((start d w draws).run xs).2
    (∀ (c : String) (gap : Nat → List Step),
      (∀ i < k, ((s.atPage (.listPage c p) gap i).step (.listPage c p i)).2.Follows
        KeepsContents (gap i)) →
      s.Gives (.listLicenses (.text c) (.int (-1)) (.int 0)) (s.database.licensesOf c) ∧
        ∃ given, s.Walks (.listPage c p) gap k given ∧ given.Pairwise (· < ·) ∧
          ((s.database.licensesOf c).length ≤ (k + 1) * p →
            (numbers (s.database.licensesOf c)).Sublist given)) ∧
    ∀ gap : Nat → List Step,
      (∀ i < k, ((s.atPage (.listAllPage p) gap i).step (.listAllPage p i)).2.Follows
        AddsNone (gap i)) →
      s.Gives (.listAllLicenses (.int (-1)) (.int 0)) s.database.newestFirst ∧
        s.Walks (.listAllPage p) gap k
          ((numbers s.database.newestFirst).take ((k + 1) * p)) := by
  intro s
  have hs : s.Readable := ⟨orderly_run d draws hw hxs, hopen⟩
  refine ⟨?_, ?_⟩
  · intro c gap hgap
    exact ⟨(hs.gives_unpaged c).1, hs.walks_listPage hp hk hgap⟩
  · intro gap hgap
    exact ⟨(hs.gives_unpaged "").2, hs.walks_listAllPage hp hk hgap⟩

theorem pages_walked_of_license_added :
    let license := fun id : String =>
      ({ id := .text id, issued := .moment ⟨0, by decide, none⟩, contentId := .text "c" } : License)
    let xs : List Step := [
      .openStore .content, .addContent { id := .text "c" }, .openStore .license,
      .addLicense (license "a"), .addLicense (license "b")]
    let gap : Nat → List Step := fun _ => [.addLicense (license "d")]
    let s := ((start .sqlite (.separate true)).run xs).2
    numbers (s.database.licensesOf "c") = [1, 2] ∧
      ∃ given, s.Walks (.listPage "c" 1) gap 1 given ∧ [1, 2].Sublist given := by
  intro license xs gap s
  have hxs : ∀ x ∈ xs, x.isRaw = false := by
    simp only [xs, List.forall_mem_cons]
    exact ⟨rfl, rfl, rfl, rfl, rfl, List.forall_mem_nil _⟩
  have hnumbers : numbers (s.database.licensesOf "c") = [1, 2] := by decide +kernel
  have hopen : s.licenses = true := by decide +kernel
  obtain ⟨hwalk, -⟩ := pages_walked .sqlite (w := .separate true) {} rfl hxs hopen
    (p := 1) (k := 1) rfl rfl
  obtain ⟨-, given, hgiven, -, hall⟩ := hwalk "c" gap fun _ _ => ⟨trivial, trivial⟩
  refine ⟨hnumbers, given, hgiven, ?_⟩
  rw [← hnumbers]
  apply hall
  decide +kernel

/-- The first page of a size that is out of range: its offset is 0, and nothing is given. -/
theorem listLicenses_of_size_out_of_range :
    let added : License := {
      id := .text "a", issued := .moment ⟨0, by decide, none⟩, contentId := .text "c" }
    let xs : List Step := [
      .openStore .content, .addContent { id := .text "c" }, .openStore .license,
      .addLicense added]
    let size : Int := 0x8000000000000000
    let s := ((start .sqlite (.separate true)).run xs).2
    fitsWord (0 * size) = true ∧ (s.database.licensesOf "c").length = 1 ∧
      (s.step (.listLicenses (.text "c") (.int size) (.int 0))).1.answer =
        .error .integerRange := by
  intro added xs size s
  have hxs : ∀ x ∈ xs, x.isRaw = false := by
    simp only [xs, List.forall_mem_cons]
    exact ⟨rfl, rfl, rfl, rfl, List.forall_mem_nil _⟩
  have hs : s.Readable := ⟨orderly_run .sqlite (w := .separate true) {} rfl hxs, by decide +kernel⟩
  refine ⟨rfl, by decide +kernel, ?_⟩
  exact hs.answer_listLicenses_of_not_fitsWord rfl "c" 0

end Session

end RightsStore
