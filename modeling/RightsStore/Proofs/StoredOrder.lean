import RightsStore.Proofs.Binding

/-!
How moments are stored: exactly, for what is bound reads back as it was, and in their order, for
the stored texts sort as the instants do.
-/

namespace RightsStore

namespace Text

/-- Texts of one length decide, whatever follows them. -/
theorem append_lt_append {a b : List Char} (hlength : a.length = b.length) (h : a < b)
    (r s : List Char) : a ++ r < b ++ s := by
  induction a generalizing b with
  | nil =>
    cases List.length_eq_zero_iff.1 hlength.symm
    exact absurd h (List.lt_irrefl [])
  | cons c a ih =>
    cases b with
    | nil => cases hlength
    | cons d b =>
      rw [List.cons_lt_cons_iff] at h
      rw [List.cons_append, List.cons_append, List.cons_lt_cons_iff]
      rcases h with hfirst | ⟨hfirst, hrest⟩
      · exact .inl hfirst
      · exact .inr ⟨hfirst, ih (Nat.succ.inj hlength) hrest⟩

theorem asciiDigit_lt {d e : Nat} (h : d < e) (he : e < 10) : asciiDigit d < asciiDigit e := by
  revert d
  revert e
  decide

theorem fixedDigits_lt {width m n : Nat} (h : m < n) (hn : n < 10 ^ width) :
    fixedDigits width m < fixedDigits width n := by
  induction width generalizing m n with
  | zero =>
    rw [Nat.pow_zero] at hn
    omega
  | succ width ih =>
    rw [fixedDigits, fixedDigits]
    by_cases htens : m / 10 < n / 10
    · have hdiv : n / 10 < 10 ^ width := by
        rw [Nat.pow_succ] at hn
        omega
      refine append_lt_append ?_ (ih htens hdiv) _ _
      rw [length_fixedDigits, length_fixedDigits]
    · have hsame : m / 10 = n / 10 := by omega
      have hlast : m % 10 < n % 10 := by omega
      rw [hsame]
      refine List.append_left_lt (List.cons_lt_cons_iff.2 (.inl ?_))
      exact asciiDigit_lt hlast (Nat.mod_lt _ (by decide))

theorem fixedDigits_append_lt {width m n : Nat} (hn : n < 10 ^ width) {r s : List Char}
    (h : m < n ∨ m = n ∧ r < s) : fixedDigits width m ++ r < fixedDigits width n ++ s := by
  rcases h with hless | ⟨rfl, hrest⟩
  · refine append_lt_append ?_ (fixedDigits_lt hless hn) r s
    rw [length_fixedDigits, length_fixedDigits]
  · exact List.append_left_lt hrest

theorem cons_lt_cons_self {c : Char} {r s : List Char} (h : r < s) : c :: r < c :: s :=
  List.cons_lt_cons_iff.2 (.inr ⟨rfl, h⟩)

theorem ofList_lt_ofList {a b : List Char} : String.ofList a < String.ofList b ↔ a < b := by
  change (String.ofList a).toList < (String.ofList b).toList ↔ a < b
  rw [String.toList_ofList, String.toList_ofList]

end Text

open Text

namespace Calendar

theorem iso_lt_iso {d e : Date} (h : d.Before e) (he : e.Valid) (hyear : e.year ≤ 9999) :
    d.iso < e.iso := by
  have hmonth : e.month < 10 ^ 2 := Nat.lt_of_le_of_lt he.month_le (by decide)
  have hday : e.day < 10 ^ 2 := Nat.lt_of_le_of_lt he.day_le_31 (by decide)
  rw [← List.append_nil d.iso, ← List.append_nil e.iso, iso_append, iso_append]
  refine fixedDigits_append_lt (by omega) (h.imp_right (And.imp_right fun h => ?_))
  refine cons_lt_cons_self (fixedDigits_append_lt hmonth (h.imp_right (And.imp_right fun h => ?_)))
  exact cons_lt_cons_self (fixedDigits_append_lt hday (.inl h))

theorem clockText_lt_clockText {m n : Nat} (h : m < n) (hn : n < dayLength) :
    clockText m < clockText n := by
  have hfields : m / hour < n / hour ∨ m / hour = n / hour ∧
      (m / (60 * second) % 60 < n / (60 * second) % 60 ∨
        m / (60 * second) % 60 = n / (60 * second) % 60 ∧
          (m / second % 60 < n / second % 60 ∨
            m / second % 60 = n / second % 60 ∧ m % second < n % second)) := by
    simp only [hour, second]
    omega
  have hminute : n / (60 * second) % 60 < 10 ^ 2 := by omega
  have hsecond : n / second % 60 < 10 ^ 2 := by omega
  have hmicro : n % second < 10 ^ 6 := Nat.mod_lt _ (by decide)
  rw [clockText_eq, clockText_eq]
  refine fixedDigits_append_lt (div_hour_lt hn) (hfields.imp_right (And.imp_right fun h => ?_))
  refine cons_lt_cons_self
    (fixedDigits_append_lt hminute (h.imp_right (And.imp_right fun h => ?_)))
  refine cons_lt_cons_self
    (fixedDigits_append_lt hsecond (h.imp_right (And.imp_right fun h => ?_)))
  exact cons_lt_cons_self (fixedDigits_lt h hmicro)

end Calendar

open Calendar

namespace Moment

theorem stored_lt_stored {s t : Moment} (h : s.wall < t.wall) : s.stored < t.stored := by
  rw [stored_eq, stored_eq]
  have hdays : s.wall / dayLength < t.wall / dayLength ∨
      s.wall / dayLength = t.wall / dayLength ∧ s.sinceMidnight < t.sinceMidnight := by
    have hs := Nat.div_add_mod s.wall dayLength
    have ht := Nat.div_add_mod t.wall dayLength
    have hle : s.wall / dayLength ≤ t.wall / dayLength := Nat.div_le_div_right (Nat.le_of_lt h)
    rw [sinceMidnight, sinceMidnight]
    rcases Nat.lt_or_eq_of_le hle with hless | hsame
    · exact .inl hless
    · rw [hsame] at hs
      exact .inr ⟨hsame, by omega⟩
  rcases hdays with hday | ⟨hday, hclock⟩
  · have hnumber : s.date.number < t.date.number := by
      rw [date, date, Date.number_ofNumber, Date.number_ofNumber]
      exact hday
    have hvalid : t.date.Valid := Date.valid_ofNumber _
    have hbefore := Date.before_of_number_lt hvalid hnumber
    refine append_lt_append ?_ (iso_lt_iso hbefore hvalid t.year_date_le) _ _
    rw [length_iso, length_iso]
  · rw [date, hday, ← date]
    exact List.append_left_lt (cons_lt_cons_self
      (clockText_lt_clockText hclock t.sinceMidnight_lt))

theorem stored_lt_stored_iff {s t : Moment} (hs : s.offset = some .utc) (ht : t.offset = some .utc) :
    s.stored < t.stored ↔ s.instant < t.instant := by
  rw [instant_of_utc hs, instant_of_utc ht, Int.ofNat_lt]
  refine ⟨fun h => ?_, stored_lt_stored⟩
  rcases Nat.lt_trichotomy s.wall t.wall with hless | hsame | hmore
  · exact hless
  · have heq : s.stored = t.stored := by
      rw [stored_eq, stored_eq, date, date, sinceMidnight, sinceMidnight, hsame]
    rw [heq] at h
    exact absurd h (List.lt_irrefl _)
  · exact absurd h (List.lt_asymm (stored_lt_stored hmore))

def first : Moment := ⟨0, by decide, some .utc⟩
def last : Moment := ⟨wallSpan - 1, by decide, some .utc⟩

theorem eq_of_instant_eq {s t : Moment} (hs : s.offset = some .utc) (ht : t.offset = some .utc)
    (h : s.instant = t.instant) : s = t := by
  rw [instant_of_utc hs, instant_of_utc ht] at h
  cases s
  cases t
  cases hs
  cases ht
  cases Int.ofNat.inj h
  rfl

theorem utc?_eq_none_iff (t : Moment) :
    t.utc? = none ↔ t.instant < first.instant ∨ last.instant < t.instant := by
  have hfirst : first.instant = 0 := rfl
  have hlast : last.instant = (wallSpan : Int) - 1 := rfl
  rw [utc?, ofInstant?, hfirst, hlast]
  split
  · rename_i h
    constructor
    · intro hnone
      cases hnone
    · omega
  · rename_i h
    refine ⟨fun _ => ?_, fun _ => rfl⟩
    omega

theorem isAware_of_utc?_eq_none {t : Moment} (h : t.utc? = none) : t.isAware = true := by
  cases hoffset : t.offset with
  | some o => rw [isAware, hoffset, Option.isSome_some]
  | none =>
    have hinstant : t.instant = t.wall := by rw [instant, hoffset]
    have hlt := t.wall_lt
    rw [utc?, hinstant, ofInstant?, dif_pos ⟨hlt, Int.natCast_nonneg _⟩] at h
    cases h

/-- `t` is bound as `u`, the same moment in UTC, which stays as it is when it is bound again, and is
stored as a text that reads back as `u`. -/
structure StoredAs (t u : Moment) (text : String) : Prop where
  bound : Stamp.toUtc (.moment t) = .ok (.moment u)
  offset : u.offset = some .utc
  instant : u.instant = t.instant
  naive : t.isAware = false → u.wall = t.wall
  again : Stamp.toUtc (.moment u) = .ok (.moment u)
  stored : Stamp.bind (.moment t) = .ok (.text text)
  read : (Cell.text text).readStamp = .ok (.moment u)

theorem storedAs_of_utc? {t u : Moment} (h : t.utc? = some u) :
    t.StoredAs u (.ofList u.stored) := by
  have hoffset := offset_of_utc? h
  have hinstant := instant_utc? h
  refine ⟨?_, hoffset, hinstant, ?_, ?_, ?_, Cell.readStamp_of_isMoment ⟨hoffset, rfl⟩⟩
  · rw [Stamp.toUtc, h]
  · intro hnaive
    have hnone : t.offset = none := by
      rw [isAware, Option.isSome_eq_false_iff, Option.isNone_iff_eq_none] at hnaive
      exact hnaive
    rw [instant_of_utc hoffset, Moment.instant, hnone] at hinstant
    exact Int.ofNat.inj hinstant
  · rw [Stamp.toUtc, utc?_of_utc hoffset]
  · rw [Stamp.bind, Stamp.toUtc, h]

theorem StoredAs.text_eq {t u : Moment} {text : String} (h : t.StoredAs u text) :
    text = .ofList u.stored := by
  have hu : t.utc? = some u := by
    have hbound := h.bound
    rw [Stamp.toUtc] at hbound
    cases hutc : t.utc? with
    | none =>
      rw [hutc] at hbound
      cases hbound
    | some v =>
      rw [hutc] at hbound
      cases hbound
      rfl
  have hstored := (storedAs_of_utc? hu).stored
  rw [h.stored] at hstored
  cases hstored
  rfl

/-- A moment cannot be stored only if it has an offset that takes it out of the years that UTC
counts; and otherwise it is stored exactly, in texts that sort as the moments follow one another.
-/
theorem stored_exactly_in_order :
    (first.iso = "0001-01-01T00:00:00+00:00".toList ∧
      last.iso = "9999-12-31T23:59:59.999999+00:00".toList) ∧
    (∀ t : Moment, Stamp.toUtc (.moment t) = .error .dateRange ↔
      t.isAware = true ∧ (t.instant < first.instant ∨ last.instant < t.instant)) ∧
    (∀ t : Moment, Stamp.toUtc (.moment t) = .error .dateRange ∨ ∃ u text, t.StoredAs u text) ∧
    ∀ (s t u v : Moment) (a b : String), s.StoredAs u a → t.StoredAs v b →
      (a < b ↔ s.instant < t.instant) ∧ (a = b ↔ s.instant = t.instant) := by
  refine ⟨⟨by decide +kernel, by decide +kernel⟩, ?_, ?_, ?_⟩
  · intro t
    rw [← utc?_eq_none_iff, Stamp.toUtc]
    cases h : t.utc? with
    | none => exact ⟨fun _ => ⟨isAware_of_utc?_eq_none h, rfl⟩, fun _ => rfl⟩
    | some u =>
      constructor
      · intro hrange
        cases hrange
      · rintro ⟨-, hnone⟩
        cases hnone
  · intro t
    rw [Stamp.toUtc]
    cases h : t.utc? with
    | none => exact .inl rfl
    | some u => exact .inr ⟨u, _, storedAs_of_utc? h⟩
  · intro s t u v a b hs ht
    obtain rfl := hs.text_eq
    obtain rfl := ht.text_eq
    have hless := ofList_lt_ofList.trans (stored_lt_stored_iff hs.offset ht.offset)
    have hmore := ofList_lt_ofList.trans (stored_lt_stored_iff ht.offset hs.offset)
    rw [← hs.instant, ← ht.instant]
    refine ⟨hless, fun heq => ?_, fun hinstant => ?_⟩
    · rw [heq] at hless hmore
      have hnot : ¬String.ofList v.stored < String.ofList v.stored :=
        fun h => List.lt_irrefl _ (ofList_lt_ofList.1 h)
      have hle := mt hless.2 hnot
      have hge := mt hmore.2 hnot
      omega
    · rw [eq_of_instant_eq hs.offset ht.offset hinstant]

example : (⟨23 * hour, by decide, Offset.ofMicros? (-10 * hour)⟩ : Moment).utc?.map stored =
    some "0001-01-02 09:00:00.000000".toList := by decide +kernel

end Moment

end RightsStore
