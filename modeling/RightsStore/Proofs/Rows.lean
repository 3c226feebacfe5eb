import Mathlib.Data.List.Forall2
import RightsStore.Database.Rows

namespace RightsStore.Rows

variable {ρ : Type}

theorem insertEntry_perm (n : Int) (r : ρ) (es : List (Int × ρ)) :
    (insertEntry n r es).Perm ((n, r) :: es) := by
  induction es with
  | nil => exact .refl _
  | cons e es ih =>
    rw [insertEntry]
    split
    · exact .refl _
    · exact (ih.cons e).trans (.swap ..)

theorem toList_insertAt_perm (t : Rows ρ) (n : Int) (r : ρ) :
    (t.insertAt n r).toList.Perm (r :: t.toList) :=
  (insertEntry_perm n r t.entries).map fun e : Int × ρ => e.2

theorem mem_toList_add {t : Rows ρ} {r x : ρ} : x ∈ (t.add r).toList ↔ x = r ∨ x ∈ t.toList :=
  (toList_insertAt_perm t _ r).mem_iff.trans List.mem_cons

theorem find?_insertEntry_of_not {p : ρ → Bool} {r : ρ} (h : p r = false) (n : Int)
    (es : List (Int × ρ)) :
    ((insertEntry n r es).map (·.2)).find? p = (es.map (·.2)).find? p := by
  induction es with
  | nil => simp [insertEntry, h]
  | cons e es ih =>
    by_cases hn : n < e.1
    · simp [insertEntry, hn, h]
    · simp only [insertEntry, hn, if_false, List.map_cons, List.find?_cons, ih]

theorem find?_insertEntry_of_forall_not {p : ρ → Bool} {r : ρ} (h : p r = true) (n : Int)
    {es : List (Int × ρ)} (hes : ∀ x ∈ es.map (·.2), p x = false) :
    ((insertEntry n r es).map (·.2)).find? p = some r := by
  induction es with
  | nil => simp [insertEntry, h]
  | cons e es ih =>
    rw [List.map_cons, List.forall_mem_cons] at hes
    by_cases hn : n < e.1
    · simp [insertEntry, hn, h]
    · simp only [insertEntry, hn, if_false, List.map_cons, List.find?_cons, hes.1, ih hes.2]

theorem find?_toList_add_of_not {t : Rows ρ} {p : ρ → Bool} {r : ρ} (h : p r = false) :
    (t.add r).toList.find? p = t.toList.find? p :=
  find?_insertEntry_of_not h _ _

theorem find?_toList_add {t : Rows ρ} {p : ρ → Bool} {r : ρ} (h : p r = true)
    (ht : ∀ x ∈ t.toList, p x = false) : (t.add r).toList.find? p = some r :=
  find?_insertEntry_of_forall_not h _ ht

theorem find?_toList_map {t : Rows ρ} {p : ρ → Bool} {f : ρ → ρ} (h : ∀ x, p (f x) = p x) :
    (t.map f).toList.find? p = (t.toList.find? p).map f := by
  have hp : p ∘ f = p := funext h
  rw [toList_map, List.find?_map, hp]

theorem map_insertEntry (f : ρ → ρ) (n : Int) (r : ρ) (es : List (Int × ρ)) :
    (insertEntry n r es).map (fun e => (e.1, f e.2)) =
      insertEntry n (f r) (es.map fun e => (e.1, f e.2)) := by
  induction es with
  | nil => rfl
  | cons e es ih =>
    rw [insertEntry, List.map_cons, insertEntry]
    split
    · rfl
    · rw [List.map_cons, ih]

theorem map_insertAt (t : Rows ρ) (n : Int) (r : ρ) (f : ρ → ρ) :
    (t.insertAt n r).map f = (t.map f).insertAt n (f r) :=
  congrArg (mk · t.draws) (map_insertEntry f n r t.entries)

theorem drawn?_map (t : Rows ρ) (f : ρ → ρ) : (t.map f).drawn? = t.drawn? := by
  have hdraw : (t.map f).canDraw = t.canDraw := by
    funext n
    rw [canDraw, canDraw, numbers_map]
  rw [drawn?, drawn?, numbers_map, hdraw]
  rfl

theorem nextNumber_map (t : Rows ρ) (f : ρ → ρ) : (t.map f).nextNumber = t.nextNumber := by
  rw [nextNumber, nextNumber, numbers_map, drawn?_map]

/-- Chance has a say only below a row of the greatest number. -/
theorem nextNumber_of_draws {t : Rows ρ} (h : t.numbers.getLast? ≠ some greatest)
    (draws : List Int) : nextNumber { t with draws } = t.nextNumber := by
  have hnumbers : numbers { t with draws } = t.numbers := rfl
  rw [nextNumber, nextNumber, hnumbers]
  cases hlast : t.numbers.getLast? with
  | none => rfl
  | some n =>
    have hn : n ≠ greatest := fun heq => h (heq ▸ hlast)
    simp only [if_neg hn]

/-- Chance may choose any number that can be drawn. -/
theorem nextNumber_of_canDraw {t : Rows ρ} (h : t.numbers.getLast? = some greatest) {n : Int}
    (hn : t.canDraw n = true) : nextNumber { t with draws := [n] } = n := by
  have hdrawn : drawn? { t with draws := [n] } = some n := by
    have hfind : [n].find? (canDraw { t with draws := [n] }) = some n := List.find?_cons_of_pos hn
    simp only [drawn?, hfind]
  have hlast : (numbers { t with draws := [n] }).getLast? = some greatest := h
  simp only [nextNumber, hlast, hdrawn, if_true, Option.getD_some]

theorem map_add (t : Rows ρ) (r : ρ) (f : ρ → ρ) : (t.add r).map f = (t.map f).add (f r) := by
  rw [add, add, nextNumber_map, map_insertAt]

def firstNumbers (n : Nat) : List Int := (List.range' 1 n).map Int.ofNat

def Consecutive (t : Rows ρ) : Prop := t.numbers = firstNumbers t.entries.length

theorem firstNumbers_succ (n : Nat) : firstNumbers (n + 1) = firstNumbers n ++ [(n : Int) + 1] := by
  rw [firstNumbers, List.range'_1_concat, List.map_append, Nat.add_comm 1 n]
  rfl

theorem le_of_mem_firstNumbers {n : Nat} {m : Int} (h : m ∈ firstNumbers n) : m ≤ n := by
  simp only [firstNumbers, List.mem_map, List.mem_range'_1] at h
  obtain ⟨k, hk, rfl⟩ := h
  simp only [Int.ofNat_eq_natCast]
  omega

theorem mem_firstNumbers {n : Nat} {m : Int} (hpos : 0 < m) (hle : m ≤ n) : m ∈ firstNumbers n := by
  simp only [firstNumbers, List.mem_map, List.mem_range'_1]
  exact ⟨m.toNat, by omega, Int.toNat_of_nonneg (Int.le_of_lt hpos)⟩

theorem pairwise_firstNumbers (n : Nat) : (firstNumbers n).Pairwise (· < ·) := by
  induction n with
  | zero => exact .nil
  | succ n ih =>
    rw [firstNumbers_succ, List.pairwise_append]
    refine ⟨ih, List.pairwise_singleton .., ?_⟩
    intro a ha b hb
    cases List.mem_singleton.1 hb
    exact Int.lt_add_one_of_le (le_of_mem_firstNumbers ha)

theorem reverse_firstNumbers_succ (n : Nat) :
    (firstNumbers (n + 1)).reverse = ((n : Int) + 1) :: (firstNumbers n).reverse := by
  rw [firstNumbers_succ, List.reverse_append]
  rfl

theorem freeUpTo_firstNumbers (n : Nat) : freeUpTo n (firstNumbers n).reverse = 0 := by
  induction n with
  | zero => rfl
  | succ n ih =>
    rw [reverse_firstNumbers_succ, freeUpTo, Int.natCast_add, Int.natCast_one, if_pos rfl,
      Int.add_sub_cancel, ih]

theorem dropWhile_firstNumbers {h n : Nat} (hn : h ≤ n) :
    (firstNumbers n).reverse.dropWhile ((h : Int) < ·) = (firstNumbers h).reverse := by
  induction hn with
  | refl =>
    cases h with
    | zero => rfl
    | succ h =>
      rw [reverse_firstNumbers_succ, List.dropWhile_cons_of_neg]
      simp
  | step hn ih =>
    rw [reverse_firstNumbers_succ, List.dropWhile_cons_of_pos, ih]
    simp only [decide_eq_true_eq]
    have := Nat.lt_succ_of_le hn
    omega

theorem Consecutive.drawn? {t : Rows ρ} (h : t.Consecutive) {n : Nat} (hn : t.entries.length = n)
    (hle : 0x4000000000000000 ≤ n) : t.drawn? = none := by
  rw [Consecutive, hn] at h
  have hnone : t.draws.find? t.canDraw = none := by
    rw [List.find?_eq_none]
    intro m _ hm
    simp only [canDraw, Bool.and_eq_true, decide_eq_true_eq, Bool.not_eq_true',
      List.contains_eq_mem, decide_eq_false_iff_not] at hm
    obtain ⟨⟨hpos, hhalf⟩, hfree⟩ := hm
    refine hfree (h ▸ mem_firstNumbers hpos ?_)
    simp only [half] at hhalf
    omega
  have hdrop := dropWhile_firstNumbers hle
  have hzero := freeUpTo_firstNumbers 0x4000000000000000
  have hfree : freeUpTo half (t.numbers.reverse.dropWhile (half < ·)) = 0 := by
    rw [h]
    rw [← hdrop] at hzero
    exact hzero
  simp only [Rows.drawn?, hnone, hfree, Int.lt_irrefl, if_false]

/-- Rows that were added one after the other go on so, even past the greatest number that can be
asked for: there is no free one below. -/
theorem Consecutive.nextNumber {t : Rows ρ} (h : t.Consecutive) :
    t.nextNumber = (t.entries.length : Int) + 1 := by
  have hdrawn := h.drawn? rfl
  rw [Consecutive] at h
  cases hn : t.entries.length with
  | zero =>
    rw [hn] at h
    simp [Rows.nextNumber, h, firstNumbers]
  | succ n =>
    have hlast : t.numbers.getLast? = some ((n : Int) + 1) := by
      rw [h, hn, firstNumbers_succ, List.getLast?_concat]
    simp only [Rows.nextNumber, hlast]
    split
    · rename_i hg
      have hle : 0x4000000000000000 ≤ n + 1 := by
        simp only [greatest] at hg
        omega
      rw [hdrawn (hn ▸ hle), Option.getD_none]
      rfl
    · rfl

theorem Consecutive.entries_add {t : Rows ρ} (h : t.Consecutive) (r : ρ) :
    (t.add r).entries = t.entries ++ [((t.entries.length : Int) + 1, r)] := by
  have hle : ∀ e ∈ t.entries, e.1 ≤ (t.entries.length : Int) + 1 := by
    intro e he
    have hmem : e.1 ∈ t.numbers := List.mem_map_of_mem he
    rw [h] at hmem
    have := le_of_mem_firstNumbers hmem
    omega
  rw [add, h.nextNumber, insertAt, insertEntry_of_forall_le hle]

theorem Consecutive.empty (draws : List Int) : ({ draws } : Rows ρ).Consecutive := rfl

theorem Consecutive.add {t : Rows ρ} (h : t.Consecutive) (r : ρ) : (t.add r).Consecutive := by
  rw [Consecutive, numbers, h.entries_add, List.map_append, List.length_append,
    List.length_singleton, firstNumbers_succ]
  congr 1

theorem Consecutive.map {t : Rows ρ} (h : t.Consecutive) (f : ρ → ρ) : (t.map f).Consecutive := by
  rw [Consecutive, numbers_map, h]
  simp [Rows.map]

theorem Consecutive.toList_add {t : Rows ρ} (h : t.Consecutive) (r : ρ) :
    (t.add r).toList = t.toList ++ [r] := by
  rw [toList, h.entries_add, List.map_append]
  rfl

/-- All earlier rows stand in front, in their order and under their numbers, and `keep` tells what
they have kept. -/
def Extends (keep : ρ → ρ → Prop) (old new : Rows ρ) : Prop :=
  ∃ kept added, new.entries = kept ++ added ∧
    List.Forall₂ (fun a b => a.1 = b.1 ∧ keep a.2 b.2) old.entries kept

variable {keep : ρ → ρ → Prop}

theorem Extends.refl (hkeep : ∀ r, keep r r) (t : Rows ρ) : t.Extends keep t :=
  ⟨t.entries, [], (List.append_nil _).symm, List.forall₂_same.2 fun _ _ => ⟨rfl, hkeep _⟩⟩

theorem extends_map {f : ρ → ρ} (hf : ∀ r, keep r (f r)) (t : Rows ρ) :
    t.Extends keep (t.map f) := by
  refine ⟨(t.map f).entries, [], (List.append_nil _).symm, ?_⟩
  rw [map, List.forall₂_map_right_iff]
  exact List.forall₂_same.2 fun _ _ => ⟨rfl, hf _⟩

theorem Consecutive.extends_add {t : Rows ρ} (h : t.Consecutive) (hkeep : ∀ r, keep r r) (r : ρ) :
    t.Extends keep (t.add r) :=
  ⟨t.entries, _, h.entries_add r, List.forall₂_same.2 fun _ _ => ⟨rfl, hkeep _⟩⟩

end RightsStore.Rows
