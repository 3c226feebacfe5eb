import RightsStore.LicenseStore
import RightsStore.Proofs.StoredMoment

namespace RightsStore

open Calendar

namespace Moment

theorem offset_of_utc? {t u : Moment} (h : t.utc? = some u) : u.offset = some .utc := by
  rw [utc?, ofInstant?] at h
  split at h
  · cases h
    rfl
  · cases h

theorem instant_of_utc {u : Moment} (h : u.offset = some .utc) : u.instant = u.wall := by
  simp [instant, h, Offset.utc]

theorem utc?_of_utc {u : Moment} (h : u.offset = some .utc) : u.utc? = some u := by
  rw [utc?, instant_of_utc h, ofInstant?, dif_pos ⟨u.wall_lt, Int.natCast_nonneg _⟩]
  cases u
  cases h
  rfl

theorem utc?_naive (u : Moment) : ({ u with offset := none } : Moment).utc? =
    ({ u with offset := some .utc } : Moment).utc? := by
  simp [utc?, instant, Offset.utc]

theorem instant_wholeSecond {u : Moment} (h : u.offset = some .utc) :
    u.wholeSecond.instant = u.instant - u.instant % second := by
  have hle : u.wall % second ≤ u.wall := Nat.mod_le ..
  have hwhole : u.wholeSecond.offset = some .utc := h
  rw [instant_of_utc h, instant_of_utc hwhole, wholeSecond, Int.ofNat_sub hle, Int.natCast_emod]

theorem wall_wholeSecond_mod (u : Moment) : u.wholeSecond.wall % second = 0 := by
  rw [wholeSecond]
  exact Nat.mod_eq_zero_of_dvd (Nat.dvd_sub_mod _)

end Moment

/-- Null, or the same moment in UTC, a naive one being read as UTC. -/
inductive Stamp.UtcForm : Stamp → Stamp → Prop
  | null : UtcForm .null .null
  | moment {t u : Moment} : u.offset = some .utc → u.instant = t.instant →
      UtcForm (.moment t) (.moment u)

def Cell.IsMoment (c : Cell) (u : Moment) : Prop :=
  u.offset = some .utc ∧ c = .text (.ofList u.stored)

theorem Cell.readStamp_of_isMoment {c : Cell} {u : Moment} (h : c.IsMoment u) :
    c.readStamp = .ok (.moment u) := by
  obtain ⟨hu, rfl⟩ := h
  have hutc : ({ u with offset := none } : Moment).utc? = some u := by
    rw [Moment.utc?_naive, ← hu]
    exact Moment.utc?_of_utc hu
  unfold readStamp
  simp only [String.toList_ofList, Moment.ofIso_stored, hutc]

theorem Cell.convert_of_isMoment {c : Cell} {u : Moment} (h : c.IsMoment u) :
    Affinity.numeric.convert c = c := by
  obtain ⟨-, rfl⟩ := h
  exact Affinity.numeric_convert_stored u

namespace Stamp

theorem bind_eq_ok {s : Stamp} {c : Cell} (h : s.bind = .ok c) :
    s = .null ∧ c = .null ∨ ∃ t u, s = .moment t ∧ t.utc? = some u ∧ c.IsMoment u := by
  cases s with
  | moment t =>
    cases hu : t.utc? with
    | none => simp [Stamp.bind, toUtc, hu] at h
    | some u =>
      simp only [Stamp.bind, toUtc, hu, Except.ok.injEq] at h
      exact .inr ⟨t, u, rfl, hu, Moment.offset_of_utc? hu, h.symm⟩
  | datum d =>
    by_cases hd : d = .null
    · subst hd
      cases h
      exact .inl ⟨rfl, rfl⟩
    · have hfail : toUtc (.datum d) = .error (.notMoment d.kind) := by
        unfold toUtc
        split
        · rename_i heq
          cases heq
          exact absurd rfl hd
        · rename_i heq
          cases heq
        · rename_i heq
          cases heq
          rfl
      simp [Stamp.bind, hfail] at h

theorem convert_of_bind {s : Stamp} {c : Cell} (h : s.bind = .ok c) :
    Affinity.numeric.convert c = c := by
  rcases bind_eq_ok h with ⟨-, rfl⟩ | ⟨t, u, -, -, hc⟩
  · rfl
  · exact Cell.convert_of_isMoment hc

theorem readStamp_of_bind {s : Stamp} {c : Cell} (h : s.bind = .ok c) :
    ∃ s', c.readStamp = .ok s' ∧ s.UtcForm s' := by
  rcases bind_eq_ok h with ⟨rfl, rfl⟩ | ⟨t, u, rfl, hu, hc⟩
  · exact ⟨.null, rfl, .null⟩
  · exact ⟨.moment u, Cell.readStamp_of_isMoment hc, .moment hc.1 (Moment.instant_utc? hu)⟩

end Stamp

namespace Datum

def Bound (d : Datum) (c : Cell) : Prop := ∃ k, d.bind k = .ok c

def IsText (d : Datum) : Prop := d = .null ∨ ∃ s, d = .text s

def IsInteger (d : Datum) : Prop := d = .null ∨ ∃ n, d = .int n

theorem Bound.of_isText {d : Datum} {c : Cell} (h : d.Bound c) (hd : d.IsText) :
    d = .cell c ∧ Affinity.text.convert c = c := by
  obtain ⟨k, hk⟩ := h
  rcases hd with rfl | ⟨s, rfl⟩
  · cases hk
    exact ⟨rfl, rfl⟩
  · cases hk
    exact ⟨rfl, rfl⟩

theorem Bound.of_isInteger {d : Datum} {c : Cell} (h : d.Bound c) (hd : d.IsInteger) :
    d = .cell c ∧ Affinity.numeric.convert c = c := by
  obtain ⟨k, hk⟩ := h
  rcases hd with rfl | ⟨n, rfl⟩
  · cases hk
    exact ⟨rfl, rfl⟩
  · rw [bind] at hk
    split at hk
    · cases hk
      exact ⟨rfl, rfl⟩
    · cases hk

theorem bindKey_eq_ok {d : Datum} {c : Cell} (h : d.bindKey = .ok c) :
    d = .cell c ∧ (c = .null ∨ ∃ b, c = .blob b) := by
  unfold bindKey at h
  split at h
  · cases h
    exact ⟨rfl, .inl rfl⟩
  · cases h
    exact ⟨rfl, .inr ⟨_, rfl⟩⟩
  · cases h

end Datum

end RightsStore
