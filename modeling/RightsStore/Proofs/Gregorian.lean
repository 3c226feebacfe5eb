import RightsStore.Calendar.Moment

namespace RightsStore.Calendar

def yearLength (y : Nat) : Nat := total (monthLengths (isLeap y))

theorem isLeap_iff (y : Nat) : isLeap y = true ↔ y % 4 = 0 ∧ (y % 100 ≠ 0 ∨ y % 400 = 0) := by
  simp [isLeap]

theorem yearLength_of_isLeap {y : Nat} (h : isLeap y = true) : yearLength y = 366 := by
  rw [yearLength, h]
  rfl

theorem yearLength_ge (y : Nat) : 365 ≤ yearLength y := by
  rw [yearLength]
  cases isLeap y <;> decide

theorem daysOfYears_le_succ (y : Nat) : daysOfYears y ≤ daysOfYears (y + 1) := by
  simp only [daysOfYears]
  omega

theorem daysOfYears_mono {y z : Nat} (h : y ≤ z) : daysOfYears y ≤ daysOfYears z := by
  induction h with
  | refl => exact Nat.le_refl _
  | step _ ih => exact Nat.le_trans ih (daysOfYears_le_succ _)

theorem yearOfNumber_place (n : Nat) : ∃ a c q z, c ≤ 3 ∧ q ≤ 24 ∧ z ≤ 3 ∧
    (yearOfNumber n).1 = 400 * a + 100 * c + 4 * q + z ∧
    n = 146097 * a + 36524 * c + 1461 * q + 365 * z + (yearOfNumber n).2 ∧
    ((yearOfNumber n).2 < 365 ∨ (yearOfNumber n).2 = 365 ∧ z = 3 ∧ (q < 24 ∨ c = 3)) := by
  refine ⟨n / 146097, min (n % 146097 / 36524) 3,
    (n % 146097 - 36524 * min (n % 146097 / 36524) 3) / 1461,
    min ((n % 146097 - 36524 * min (n % 146097 / 36524) 3) % 1461 / 365) 3, ?_, ?_, ?_, rfl, ?_, ?_⟩
  · omega
  · omega
  · omega
  · simp only [yearOfNumber]
    omega
  · simp only [yearOfNumber]
    omega

theorem daysOfYears_place {a c q z : Nat} (hc : c ≤ 3) (hq : q ≤ 24) (hz : z ≤ 3) :
    daysOfYears (400 * a + 100 * c + 4 * q + z) =
      146097 * a + 36524 * c + 1461 * q + 365 * z := by
  have h4 : (400 * a + 100 * c + 4 * q + z) / 4 = 100 * a + 25 * c + q := by omega
  have h100 : (400 * a + 100 * c + 4 * q + z) / 100 = 4 * a + c := by omega
  have h400 : (400 * a + 100 * c + 4 * q + z) / 400 = a := by omega
  rw [daysOfYears, h4, h100, h400]
  omega

theorem daysOfYears_yearOfNumber (n : Nat) :
    daysOfYears (yearOfNumber n).1 + (yearOfNumber n).2 = n := by
  obtain ⟨a, c, q, z, hc, hq, hz, hy, hn, -⟩ := yearOfNumber_place n
  rw [hy, daysOfYears_place hc hq hz, ← hn]

theorem yearOfNumber_snd_lt (n : Nat) :
    (yearOfNumber n).2 < yearLength ((yearOfNumber n).1 + 1) := by
  obtain ⟨a, c, q, z, hc, hq, hz, hy, -, h⟩ := yearOfNumber_place n
  rcases h with h | ⟨h, rfl, hqc⟩
  · exact Nat.lt_of_lt_of_le h (yearLength_ge _)
  · have hleap : isLeap ((yearOfNumber n).1 + 1) = true := by
      rw [isLeap_iff, hy]
      omega
    rw [yearLength_of_isLeap hleap, h]
    decide

theorem monthFrom_place (m n : Nat) (ks : List Nat) (h : n < total ks) :
    ∃ i, (monthFrom m n ks).1 = m + i ∧ i < ks.length ∧ 1 ≤ (monthFrom m n ks).2 ∧
      (monthFrom m n ks).2 ≤ (ks[i]?).getD 0 ∧
      total (ks.take i) + ((monthFrom m n ks).2 - 1) = n := by
  induction ks generalizing m n with
  | nil => exact absurd h (Nat.not_lt_zero n)
  | cons k ks ih =>
    by_cases hk : n < k
    · have hmonth : monthFrom m n (k :: ks) = (m, n + 1) := by rw [monthFrom, if_pos hk]
      rw [hmonth]
      exact ⟨0, rfl, Nat.zero_lt_succ _, Nat.le_add_left .., hk, Nat.zero_add n⟩
    · rw [total] at h
      obtain ⟨i, h1, h2, h3, h4, h5⟩ := ih (m + 1) (n - k) (by omega)
      refine ⟨i + 1, ?_⟩
      simp only [monthFrom, hk, if_false, List.length_cons, List.getElem?_cons_succ,
        List.take_succ_cons, total]
      omega

structure Date.Valid (d : Date) : Prop where
  year_pos : 1 ≤ d.year
  month_pos : 1 ≤ d.month
  month_le : d.month ≤ 12
  day_pos : 1 ≤ d.day
  day_le : d.day ≤ daysInMonth d.year d.month

theorem Date.Valid.day_le_31 {d : Date} (h : d.Valid) : d.day ≤ 31 := by
  refine Nat.le_trans h.day_le ?_
  have hm : d.month - 1 < 12 := by
    have := h.month_le
    omega
  rw [daysInMonth]
  generalize d.month - 1 = i at hm
  cases isLeap d.year <;> revert i <;> decide

theorem Date.ofNumber_place (n : Nat) : ∃ i, i < 12 ∧
    (Date.ofNumber n).month = 1 + i ∧ 1 ≤ (Date.ofNumber n).day ∧
    (Date.ofNumber n).day ≤ ((monthLengths (isLeap ((yearOfNumber n).1 + 1)))[i]?).getD 0 ∧
    total ((monthLengths (isLeap ((yearOfNumber n).1 + 1))).take i) + ((Date.ofNumber n).day - 1) =
      (yearOfNumber n).2 :=
  have ⟨i, hm, hi, hpos, hle, hsum⟩ := monthFrom_place 1 _ _ (yearOfNumber_snd_lt n)
  ⟨i, hi, hm, hpos, hle, hsum⟩

theorem Date.year_ofNumber (n : Nat) : (Date.ofNumber n).year = (yearOfNumber n).1 + 1 := rfl

theorem Date.valid_ofNumber (n : Nat) : (Date.ofNumber n).Valid := by
  obtain ⟨i, hi, hm, hpos, hle, -⟩ := ofNumber_place n
  constructor
  · exact Nat.succ_pos _
  · omega
  · omega
  · exact hpos
  · rw [daysInMonth, hm, year_ofNumber, Nat.add_sub_cancel_left]
    exact hle

@[simp] theorem Date.number_ofNumber (n : Nat) : (Date.ofNumber n).number = n := by
  obtain ⟨i, -, hm, -, -, hsum⟩ := ofNumber_place n
  have hy := daysOfYears_yearOfNumber n
  rw [number, daysOfMonths, hm, year_ofNumber, Nat.add_sub_cancel, Nat.add_sub_cancel_left]
  omega

theorem Date.year_ofNumber_le {n : Nat} (h : n < daySpan) : (Date.ofNumber n).year ≤ 9999 := by
  have hy := daysOfYears_yearOfNumber n
  have hspan : daysOfYears 9999 = daySpan := rfl
  rw [year_ofNumber]
  by_cases hlt : (yearOfNumber n).1 < 9999
  · exact hlt
  · have := daysOfYears_mono (Nat.le_of_not_lt hlt)
    omega

theorem total_take_succ (ks : List Nat) (i : Nat) :
    total (ks.take (i + 1)) = total (ks.take i) + (ks[i]?).getD 0 := by
  induction ks generalizing i with
  | nil => simp [total]
  | cons k ks ih =>
    cases i with
    | zero => simp [total]
    | succ i => simp only [List.take_succ_cons, total, ih, List.getElem?_cons_succ, Nat.add_assoc]

theorem total_take_mono (ks : List Nat) {i j : Nat} (h : i ≤ j) :
    total (ks.take i) ≤ total (ks.take j) := by
  induction h with
  | refl => exact Nat.le_refl _
  | step _ ih =>
    rw [total_take_succ]
    exact Nat.le_trans ih (Nat.le_add_right ..)

theorem Date.Valid.lt_daysOfMonths {d : Date} (h : d.Valid) {m : Nat} (hm : d.month < m) :
    daysOfMonths (isLeap d.year) d.month + (d.day - 1) < daysOfMonths (isLeap d.year) m := by
  have hday := h.day_pos
  have hle := h.day_le
  have hmonth := total_take_succ (monthLengths (isLeap d.year)) (d.month - 1)
  have hnext : d.month - 1 + 1 ≤ m - 1 := by
    have := h.month_pos
    omega
  have hmono := total_take_mono (monthLengths (isLeap d.year)) hnext
  rw [daysInMonth] at hle
  rw [daysOfMonths, daysOfMonths]
  omega

theorem yearLength_of_not_isLeap {y : Nat} (h : isLeap y = false) : yearLength y = 365 := by
  rw [yearLength, h]
  rfl

theorem daysOfYears_succ (y : Nat) : daysOfYears (y + 1) = daysOfYears y + yearLength (y + 1) := by
  have hcenturies : y / 100 ≤ y / 4 := Nat.div_le_div_left (by decide) (by decide)
  have h400 : (y + 1) % 400 = 0 → (y + 1) % 100 = 0 := by omega
  have h100 : (y + 1) % 100 = 0 → (y + 1) % 4 = 0 := by omega
  have hleap := isLeap_iff (y + 1)
  simp only [daysOfYears, Nat.succ_div, Nat.dvd_iff_mod_eq_zero]
  -- the quotients only have to be compared
  generalize y / 4 = q, y / 100 = c, y / 400 = a at *
  by_cases hfour : (y + 1) % 4 = 0
  · by_cases hcentury : (y + 1) % 100 = 0
    · by_cases hcycle : (y + 1) % 400 = 0
      · rw [yearLength_of_isLeap (hleap.2 ⟨hfour, .inr hcycle⟩), if_pos hfour, if_pos hcentury,
          if_pos hcycle]
        omega
      · have hshort : isLeap (y + 1) = false := by
          rw [← Bool.not_eq_true, hleap]
          exact fun h => h.2.elim (· hcentury) hcycle
        rw [yearLength_of_not_isLeap hshort, if_pos hfour, if_pos hcentury, if_neg hcycle]
        omega
    · rw [yearLength_of_isLeap (hleap.2 ⟨hfour, .inl hcentury⟩), if_pos hfour, if_neg hcentury,
        if_neg (mt h400 hcentury)]
      omega
  · have hcentury := mt h100 hfour
    have hshort : isLeap (y + 1) = false := by
      rw [← Bool.not_eq_true, hleap]
      exact fun h => hfour h.1
    rw [yearLength_of_not_isLeap hshort, if_neg hfour, if_neg hcentury, if_neg (mt h400 hcentury)]
    omega

theorem Date.Valid.number_lt {d : Date} (h : d.Valid) : d.number < daysOfYears d.year := by
  have hmonths := h.lt_daysOfMonths (m := 13) (Nat.lt_succ_of_le h.month_le)
  have hyear := daysOfYears_succ (d.year - 1)
  rw [Nat.sub_add_cancel h.year_pos] at hyear
  have hall : daysOfMonths (isLeap d.year) 13 = yearLength d.year := rfl
  rw [number]
  omega

def Date.Before (d e : Date) : Prop :=
  d.year < e.year ∨ d.year = e.year ∧ (d.month < e.month ∨ d.month = e.month ∧ d.day < e.day)

theorem Date.Before.number_lt {d e : Date} (h : d.Before e) (hd : d.Valid) :
    d.number < e.number := by
  rcases h with hyear | ⟨hyear, hmonth | ⟨hmonth, hday⟩⟩
  · have hmono := daysOfYears_mono (Nat.le_sub_one_of_lt hyear)
    have hend := hd.number_lt
    have hbegin : daysOfYears (e.year - 1) ≤ e.number := by
      rw [number, Nat.add_assoc]
      exact Nat.le_add_right ..
    omega
  · have hmonths := hd.lt_daysOfMonths hmonth
    rw [number, number, ← hyear]
    omega
  · have hpos := hd.day_pos
    rw [number, number, ← hyear, ← hmonth]
    omega

theorem Date.trichotomy (d e : Date) : d.Before e ∨ d = e ∨ e.Before d := by
  obtain ⟨y, m, k⟩ := d
  obtain ⟨y', m', k'⟩ := e
  simp only [Before, mk.injEq]
  omega

theorem Date.before_of_number_lt {d e : Date} (he : e.Valid) (h : d.number < e.number) :
    d.Before e := by
  rcases d.trichotomy e with hbefore | rfl | hafter
  · exact hbefore
  · exact absurd h (Nat.lt_irrefl _)
  · exact absurd h (Nat.lt_asymm (hafter.number_lt he))

end RightsStore.Calendar
