import RightsStore.Proofs.Statements
import RightsStore.Proofs.StoredMoment

namespace RightsStore

open Calendar Text

def Offset.reread (o : Offset) : Offset := if o.micros.natAbs < second then .utc else o

namespace Calendar

theorem isClockChar_of_mem_minuteText {n : Nat} {c : Char} (h : c ∈ minuteText n) :
    isClockChar c = true := by
  apply isClockChar_of_mem_clockText (n := n)
  simp only [clockText, secondText, List.mem_append]
  exact .inl (.inl h)

theorem clockIso_cases (n : Nat) :
    n % second = 0 ∧ clockIso n = secondText n ∨ clockIso n = clockText n := by
  by_cases h : n % second = 0
  · exact .inl ⟨h, by simp [clockIso, h]⟩
  · exact .inr (by simp [clockIso, clockText, h])

theorem isClockChar_of_mem_clockIso {n : Nat} {c : Char} (h : c ∈ clockIso n) :
    isClockChar c = true := by
  apply isClockChar_of_mem_clockText (n := n)
  rcases clockIso_cases n with ⟨-, hn⟩ | hn
  · rw [hn] at h
    exact List.mem_append_left _ h
  · rwa [hn] at h

theorem readFields_end {colons : Bool} {field n len : Nat} (hfield : field < 3) (hn : n < 10 ^ 2)
    (hlen : len ≤ 3) (k : Clock) (r : List Char) :
    readFields colons k field (fixedDigits 2 n ++ r) len = some (k.set field n, goesOn r) := by
  rw [readFields, if_neg (Nat.not_le_of_lt hfield), digits?_fixedDigits hn]
  simp [hlen, goesOn]

theorem readClock_wholeMinutes {n : Nat} (h : n < dayLength) (hwhole : n % (60 * second) = 0) :
    readClock (minuteText n) (minuteText n).length = some (.ofMicros n, false) := by
  have hminute : n / (60 * second) % 60 < 10 ^ 2 := by omega
  have hlength : (minuteText n).length = 5 := by simp [minuteText]
  have hend : readFields true { hour := n / hour } 1
      (fixedDigits 2 (n / (60 * second) % 60) ++ []) 2 = _ :=
    readFields_end (by decide) hminute (by decide) _ []
  rw [List.append_nil] at hend
  have hzero : n / second % 60 = 0 ∧ n % second = 0 := by
    simp only [second] at hwhole ⊢
    omega
  rw [hlength, readClock, minuteText,
    readFields_colon (by decide) (div_hour_lt h) (by decide) (.inl rfl)]
  refine hend.trans ?_
  simp [Clock.set, Clock.ofMicros, hzero, goesOn, peek]

theorem readClock_secondText {n : Nat} (h : n < dayLength) (hwhole : n % second = 0)
    (r : List Char) : readClock (secondText n ++ r) 8 = some (.ofMicros n, goesOn r) := by
  have hsecond : n / second % 60 < 10 ^ 2 := by omega
  have htext : secondText n ++ r = minuteText n ++ ':' :: (fixedDigits 2 (n / second % 60) ++ r) := by
    simp [secondText]
  rw [htext, readClock_minuteText h (by decide), readFields_end (by decide) hsecond (by decide)]
  simp [Clock.set, Clock.ofMicros, hwhole]

theorem readClock_clockIso {n : Nat} (h : n < dayLength) (r : List Char) :
    ∃ more, readClock (clockIso n ++ r) (clockIso n).length = some (.ofMicros n, more) ∧
      (r = [] → more = false) := by
  rcases clockIso_cases n with ⟨hwhole, hn⟩ | hn
  · have hlength : (secondText n).length = 8 := by simp [secondText, minuteText]
    rw [hn, hlength]
    refine ⟨_, readClock_secondText h hwhole r, ?_⟩
    rintro rfl
    rfl
  · rw [hn, length_clockText]
    refine ⟨_, readClock_clockText h r, ?_⟩
    rintro rfl
    rfl

end Calendar

namespace Offset

def unsigned (o : Offset) : List Char :=
  let n := o.micros.natAbs
  if n % (60 * second) = 0 then minuteText n else clockIso n

theorem iso_eq (o : Offset) : o.iso = (if o.micros < 0 then '-' else '+') :: o.unsigned := rfl

theorem natAbs_lt (o : Offset) : o.micros.natAbs < dayLength := by
  have := o.lower
  have := o.upper
  omega

theorem isClockChar_of_mem_unsigned {o : Offset} {c : Char} (h : c ∈ o.unsigned) :
    isClockChar c = true := by
  simp only [unsigned] at h
  split at h
  · exact isClockChar_of_mem_minuteText h
  · exact isClockChar_of_mem_clockIso h

theorem readClock_unsigned (o : Offset) :
    readClock o.unsigned (byteLength o.unsigned) = some (.ofMicros o.micros.natAbs, false) := by
  rw [byteLength_of_forall fun _ hc => isClockChar_of_mem_unsigned hc, unsigned]
  split
  · rename_i hwhole
    exact readClock_wholeMinutes o.natAbs_lt hwhole
  · obtain ⟨more, hclock, hmore⟩ := readClock_clockIso o.natAbs_lt []
    rw [List.append_nil, hmore rfl] at hclock
    exact hclock

theorem applySign_natAbs (n : Int) : applySign (n < 0) n.natAbs = n := by
  simp only [applySign, decide_eq_true_eq]
  omega

theorem readOffset_unsigned (o : Offset) :
    readOffset (o.micros < 0) o.unsigned = some o.reread.micros := by
  have hseconds (n : Nat) : (Clock.ofMicros n).hour * 3600 + (Clock.ofMicros n).minute * 60 +
      (Clock.ofMicros n).second = n / second := by
    simp only [Clock.ofMicros, hour, second]
    omega
  have hmicros (n : Nat) : n / second * second + (Clock.ofMicros n).micro = n :=
    Nat.div_add_mod' ..
  simp only [readOffset, readClock_unsigned, hseconds, hmicros, Option.bind_eq_bind,
    Option.bind_some, Bool.false_eq_true, if_false]
  rw [applySign_natAbs, Option.pure_def, Option.some_inj, reread]
  by_cases hlow : o.micros.natAbs < second
  · rw [if_pos hlow, if_pos (Nat.div_eq_of_lt hlow)]
    rfl
  · have hpos : 0 < o.micros.natAbs / second :=
      Nat.div_pos (Nat.le_of_not_lt hlow) (Nat.zero_lt_succ _)
    rw [if_neg hlow, if_neg (Nat.ne_of_gt hpos)]

end Offset

namespace Calendar

theorem beginsOffset_sign (n : Int) : beginsOffset (if n < 0 then '-' else '+') = true := by
  by_cases hn : n < 0
  · rw [if_pos hn]
    rfl
  · rw [if_neg hn]
    rfl

theorem takeWhile_clockIso (n : Nat) {r : List Char}
    (hr : r.takeWhile (!beginsOffset ·) = []) :
    (clockIso n ++ r).takeWhile (!beginsOffset ·) = clockIso n := by
  have hall : ∀ c ∈ clockIso n, (!beginsOffset c) = true := by
    intro c hc
    rw [beginsOffset_of_isClockChar (isClockChar_of_mem_clockIso hc)]
    rfl
  rw [List.takeWhile_append_of_pos hall, hr, List.append_nil]

theorem byteLength_clockIso (n : Nat) : byteLength (clockIso n) = (clockIso n).length :=
  byteLength_of_forall fun _ hc => isClockChar_of_mem_clockIso hc

theorem readTime_clockIso {n : Nat} (h : n < dayLength) (offset : Option Offset) :
    readTime (clockIso n ++ (offset.map Offset.iso).getD []) =
      some (.ofMicros n, (offset.map Offset.reread).map Offset.micros) := by
  cases offset with
  | none =>
    obtain ⟨more, hclock, hmore⟩ := readClock_clockIso h []
    have htake := takeWhile_clockIso n (r := []) rfl
    rw [hmore rfl] at hclock
    rw [List.append_nil] at hclock htake
    simp [readTime, htake, byteLength_clockIso, hclock]
  | some o =>
    have hsign := beginsOffset_sign o.micros
    obtain ⟨more, hclock, -⟩ := readClock_clockIso h o.iso
    have htake := takeWhile_clockIso n (r := o.iso) (by rw [Offset.iso_eq]; simp [hsign])
    -- no sign is the letter that stands for UTC
    have hz : (if o.micros < 0 then '-' else '+') ≠ 'Z' := by
      split
      · decide
      · decide
    have hneg : ((if o.micros < 0 then '-' else '+') == '-') = decide (o.micros < 0) := by
      by_cases hn : o.micros < 0
      · simp [hn]
      · simp [hn]
    have hoffset := o.readOffset_unsigned
    simp only [readTime, Option.map_some, Option.getD_some, htake, byteLength_clockIso, hclock,
      Option.bind_eq_bind, Option.bind_some, List.drop_left]
    rw [Offset.iso_eq]
    simp [hneg, hoffset]

theorem checkOffset_micros (offset : Option Offset) :
    checkOffset (offset.map Offset.micros) = .ok offset := by
  cases offset with
  | none => rfl
  | some o => simp [checkOffset, Offset.ofMicros?, o.lower, o.upper]

end Calendar

namespace Moment

theorem ofIso_iso (t : Moment) :
    ofIso t.iso = .ok { t with offset := t.offset.map Offset.reread } := by
  have hv : t.date.Valid := Date.valid_ofNumber _
  have hsplit : t.iso = t.date.iso ++
      'T' :: (clockIso t.sinceMidnight ++ (t.offset.map Offset.iso).getD []) := by
    simp [iso]
  have hread : read t.iso =
      .ok ⟨t.date, .ofMicros t.sinceMidnight, (t.offset.map Offset.reread).map Offset.micros⟩ := by
    rw [hsplit, Calendar.read, dateLength_iso, readDate_iso hv t.year_date_le]
    simp [List.drop_left' (length_iso _), readTime_clockIso t.sinceMidnight_lt, orMalformed, bind,
      Except.bind, pure, Except.pure]
  have hfault := fault?_of_valid hv t.year_date_le t.sinceMidnight_lt
  simp only [Reading.fault?] at hfault
  simp only [ofIso, hread, Reading.check, checkOffset_micros, Reading.fault?, hfault, wall_reading,
    bind, Except.bind]
  rw [dif_pos t.wall_lt]

theorem ofIso_iso_of_utc (t : Moment) (ht : t.offset = some .utc) : ofIso t.iso = .ok t := by
  have hutc : Offset.utc.reread = .utc := rfl
  rw [t.ofIso_iso, ht, Option.map_some, hutc, ← ht]

end Moment

namespace Calendar

def IsRead (n : Int) : Prop := n = 0 ∨ second ≤ n.natAbs

theorem isRead_readOffset {negative : Bool} {cs : List Char} {n : Int}
    (h : readOffset negative cs = some n) : IsRead n := by
  unfold readOffset at h
  rw [Option.bind_eq_bind, Option.bind_eq_some_iff] at h
  obtain ⟨⟨k, more⟩, -, h⟩ := h
  dsimp only at h
  split at h
  · cases h
  · rw [Option.pure_def, Option.some_inj] at h
    rw [← h]
    split
    · exact .inl rfl
    · rename_i hseconds
      right
      have hpos := Nat.mul_le_mul_right second (Nat.one_le_iff_ne_zero.2 hseconds)
      cases negative <;> simp only [applySign] <;> omega

theorem isRead_readTime {cs : List Char} {k : Clock} {n : Int}
    (h : readTime cs = some (k, some n)) : IsRead n := by
  unfold readTime at h
  rw [Option.bind_eq_bind, Option.bind_eq_some_iff] at h
  obtain ⟨⟨k', more⟩, -, h⟩ := h
  dsimp only at h
  split at h
  · split at h
    · cases h
    · cases h
  · split at h
    · cases h
      exact .inl rfl
    · cases h
  · rw [Option.bind_eq_bind, Option.bind_eq_some_iff] at h
    obtain ⟨o, ho, h⟩ := h
    cases h
    exact isRead_readOffset ho

theorem isRead_read {cs : List Char} {r : Reading} {n : Int} (h : Calendar.read cs = .ok r)
    (hn : r.offset = some n) : IsRead n := by
  obtain ⟨d, -, h⟩ := exists_of_bind_eq_ok h
  split at h
  · cases h
    cases hn
  · obtain ⟨⟨k, offset⟩, htime, h⟩ := exists_of_bind_eq_ok h
    cases h
    cases hn
    unfold orMalformed at htime
    split at htime
    · rename_i ht
      cases htime
      exact isRead_readTime ht
    · cases htime

end Calendar

theorem Offset.micros_of_ofMicros? {n : Int} {o : Offset} (h : ofMicros? n = some o) :
    o.micros = n := by
  unfold ofMicros? at h
  split at h
  · cases h
    rfl
  · cases h

theorem Calendar.isRead_of_checkOffset {offset : Option Int} {o : Offset}
    (hread : ∀ n, offset = some n → IsRead n) (h : checkOffset offset = .ok (some o)) :
    IsRead o.micros := by
  cases offset with
  | none => cases h
  | some n =>
    cases ho : Offset.ofMicros? n with
    | none =>
      rw [checkOffset, ho] at h
      cases h
    | some o' =>
      rw [checkOffset, ho] at h
      cases h
      rw [Offset.micros_of_ofMicros? ho]
      exact hread n rfl

theorem Offset.reread_eq {o : Offset} (h : IsRead o.micros) : o.reread = o := by
  unfold reread
  split
  · rename_i hlow
    obtain ⟨n, hlower, hupper⟩ := o
    obtain rfl | hhigh := h
    · rfl
    · exact absurd hlow (Nat.not_lt.2 hhigh)
  · rfl

theorem Moment.ofIso_iso_of_ofIso {cs : List Char} {t : Moment} (h : ofIso cs = .ok t) :
    ofIso t.iso = .ok t := by
  obtain ⟨r, hread, h⟩ := exists_of_bind_eq_ok h
  obtain ⟨offset, hoffset, h⟩ := exists_of_bind_eq_ok h
  have ht : t.offset = offset := by
    split at h
    · cases h
    · split at h
      · cases h
        rfl
      · cases h
  have hkept : t.offset.map Offset.reread = t.offset := by
    rw [ht]
    cases offset with
    | none => rfl
    | some o =>
      have hread' : IsRead o.micros := isRead_of_checkOffset (fun _ => isRead_read hread) hoffset
      rw [Option.map_some, Offset.reread_eq hread']
  rw [t.ofIso_iso, hkept]

end RightsStore
