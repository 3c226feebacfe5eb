import Mathlib.Algebra.Group.Nat.Defs
import Mathlib.Data.List.TakeWhile
import RightsStore.Calendar.Iso.Reader
import RightsStore.Database.Affinity
import RightsStore.Proofs.Gregorian

namespace RightsStore

namespace Text

theorem isAsciiDigit_asciiDigit {d : Nat} (h : d < 10) : isAsciiDigit (asciiDigit d) = true := by
  revert d
  decide

theorem asciiDigitValue_asciiDigit {d : Nat} (h : d < 10) : asciiDigitValue (asciiDigit d) = d := by
  revert d
  decide

theorem isAsciiDigit_of_mem_fixedDigits {width n : Nat} {c : Char} (h : c ∈ fixedDigits width n) :
    isAsciiDigit c = true := by
  induction width generalizing n with
  | zero => cases h
  | succ width ih =>
    rw [fixedDigits, List.mem_append, List.mem_singleton] at h
    rcases h with h | rfl
    · exact ih h
    · exact isAsciiDigit_asciiDigit (Nat.mod_lt _ (by decide))

theorem ofDigits_append_singleton (ds : List Nat) (d : Nat) :
    ofDigits (ds ++ [d]) = 10 * ofDigits ds + d := by
  rw [ofDigits, List.foldl_append]
  rfl

theorem ofDigits_fixedDigits {width n : Nat} (h : n < 10 ^ width) :
    ofDigits ((fixedDigits width n).map asciiDigitValue) = n := by
  induction width generalizing n with
  | zero =>
    rw [Nat.pow_zero] at h
    rw [Nat.lt_one_iff.1 h]
    rfl
  | succ width ih =>
    have hdiv : n / 10 < 10 ^ width := by
      rw [Nat.pow_succ] at h
      omega
    rw [fixedDigits, List.map_append, List.map_singleton, ofDigits_append_singleton, ih hdiv,
      asciiDigitValue_asciiDigit (Nat.mod_lt _ (by decide))]
    omega

theorem dropWhile_isAsciiDigit_fixedDigits (width n : Nat) {c : Char} (hc : isAsciiDigit c = false)
    (r : List Char) :
    (fixedDigits width n ++ c :: r).dropWhile isAsciiDigit = c :: r := by
  rw [List.dropWhile_append_of_pos fun _ h => isAsciiDigit_of_mem_fixedDigits h,
    List.dropWhile_cons_of_neg (by simp [hc])]

end Text

open Text

namespace Calendar

theorem digits?_fixedDigits {width n : Nat} (h : n < 10 ^ width) (r : List Char) :
    digits? width (fixedDigits width n ++ r) = some (n, r) := by
  have hlen := length_fixedDigits width n
  have hall : (fixedDigits width n).all isAsciiDigit = true :=
    List.all_eq_true.2 fun _ hc => isAsciiDigit_of_mem_fixedDigits hc
  simp only [digits?, List.take_left' hlen, List.drop_left' hlen, hlen, hall, Bool.and_true,
    decide_true, if_true, ofDigits_fixedDigits h]

theorem isAsciiDigit_peek_fixedDigits (width n : Nat) (h : 0 < width) (r : List Char) :
    isAsciiDigit (peek (fixedDigits width n ++ r)) = true := by
  cases hd : fixedDigits width n with
  | nil =>
    have := length_fixedDigits width n
    rw [hd] at this
    exact absurd this (Nat.ne_of_lt h)
  | cons c cs =>
    apply isAsciiDigit_of_mem_fixedDigits
    rw [hd]
    exact List.mem_cons_self

theorem length_iso (d : Date) : d.iso.length = 10 := by
  simp [Date.iso]

theorem iso_append (d : Date) (r : List Char) :
    d.iso ++ r = fixedDigits 4 d.year ++ '-' :: (fixedDigits 2 d.month ++
      '-' :: (fixedDigits 2 d.day ++ r)) := by
  simp [Date.iso]

theorem getElem?_four_iso (d : Date) (r : List Char) : (d.iso ++ r)[4]? = some '-' := by
  rw [iso_append, List.getElem?_append_right (by simp)]
  simp

theorem getElem?_five_iso (d : Date) (r : List Char) : (d.iso ++ r)[5]? ≠ some 'W' := by
  intro h
  rw [iso_append, List.getElem?_append_right (by simp)] at h
  simp only [length_fixedDigits, Nat.reduceSub, List.getElem?_cons_succ] at h
  rw [List.getElem?_append_left (by simp)] at h
  have := isAsciiDigit_of_mem_fixedDigits (List.mem_of_getElem? h)
  exact absurd this (by decide)

theorem dateLength_iso (d : Date) (r : List Char) : dateLength (d.iso ++ r) = 10 := by
  have hlen : (d.iso ++ r).length ≠ 7 := by
    rw [List.length_append, length_iso]
    omega
  simp only [dateLength, hlen, if_false, getElem?_four_iso, if_true, getElem?_five_iso]

theorem readDate_iso {d : Date} (hv : d.Valid) (hy : d.year ≤ 9999) (r : List Char) :
    readDate (d.iso ++ r) 10 = .ok d := by
  have hyear : d.year < 10 ^ 4 := by omega
  have hmonth : d.month < 10 ^ 2 := Nat.lt_of_le_of_lt hv.month_le (by decide)
  have hday : d.day < 10 ^ 2 := Nat.lt_of_le_of_lt hv.day_le_31 (by decide)
  have hweek (t : List Char) : peek (fixedDigits 2 d.month ++ t) ≠ 'W' := by
    intro h
    have := isAsciiDigit_peek_fixedDigits 2 d.month (by decide) t
    rw [h] at this
    exact absurd this (by decide)
  have hend : (d.iso ++ r).length - r.length = 10 := by
    rw [List.length_append, length_iso]
    omega
  rw [iso_append] at hend ⊢
  simp only [readDate, digits?_fixedDigits hyear, orMalformed, bind, Except.bind, peek,
    List.headD_cons, List.tail_cons, if_true]
  have := hweek ('-' :: (fixedDigits 2 d.day ++ r))
  simp only [peek] at this
  simp only [this, if_false, digits?_fixedDigits hmonth, hyphen, peek, List.headD_cons,
    List.tail_cons, decide_true, Bool.not_true, Bool.false_eq_true, if_true,
    digits?_fixedDigits hday, hend, pure, Except.pure]

def isClockChar (c : Char) : Bool := isAsciiDigit c || c == ':' || c == '.'

theorem beginsOffset_of_isClockChar {c : Char} (h : isClockChar c = true) :
    beginsOffset c = false := by
  simp only [isClockChar, Bool.or_eq_true, beq_iff_eq] at h
  rcases h with (h | rfl) | rfl
  · cases hb : beginsOffset c with
    | false => rfl
    | true =>
      simp only [beginsOffset, Bool.or_eq_true, beq_iff_eq] at hb
      rcases hb with (rfl | rfl) | rfl <;> exact absurd h (by decide)
  · rfl
  · rfl

theorem utf8Size_of_isClockChar {c : Char} (h : isClockChar c = true) : c.utf8Size = 1 := by
  simp only [isClockChar, Bool.or_eq_true, beq_iff_eq] at h
  rcases h with (h | rfl) | rfl
  · simp only [isAsciiDigit, Bool.and_eq_true, decide_eq_true_eq] at h
    have hle : c.val ≤ 127 := UInt32.le_trans h.2 (by decide)
    simp [Char.utf8Size, hle]
  · rfl
  · rfl

theorem byteLength_of_forall {cs : List Char} (h : ∀ c ∈ cs, isClockChar c = true) :
    byteLength cs = cs.length := by
  induction cs with
  | nil => rfl
  | cons c cs ih =>
    have hc := utf8Size_of_isClockChar (h c List.mem_cons_self)
    have hcs := ih fun x hx => h x (List.mem_cons_of_mem c hx)
    simp only [byteLength, List.foldr_cons] at hcs ⊢
    rw [hc, hcs, List.length_cons, Nat.add_comm]

def clockText (n : Nat) : List Char := secondText n ++ fractionText n

theorem clockText_eq (n : Nat) : clockText n =
    fixedDigits 2 (n / hour) ++ ':' :: (fixedDigits 2 (n / (60 * second) % 60) ++
      ':' :: (fixedDigits 2 (n / second % 60) ++ '.' :: fixedDigits 6 (n % second))) := by
  simp [clockText, secondText, minuteText, fractionText]

theorem length_clockText (n : Nat) : (clockText n).length = 15 := by
  simp [clockText_eq]

theorem isClockChar_of_mem_clockText {n : Nat} {c : Char} (h : c ∈ clockText n) :
    isClockChar c = true := by
  have digit {width m : Nat} (h : c ∈ fixedDigits width m) : isClockChar c = true := by
    simp [isClockChar, isAsciiDigit_of_mem_fixedDigits h]
  simp only [clockText_eq, List.mem_append, List.mem_cons] at h
  rcases h with h | rfl | h | rfl | h | rfl | h
  · exact digit h
  · rfl
  · exact digit h
  · rfl
  · exact digit h
  · rfl
  · exact digit h

def Clock.ofMicros (n : Nat) : Clock where
  hour := n / Calendar.hour
  minute := n / (60 * Calendar.second) % 60
  second := n / Calendar.second % 60
  micro := n % Calendar.second

theorem Clock.micros_ofMicros (n : Nat) : (Clock.ofMicros n).micros = n := by
  simp only [micros, ofMicros, Calendar.hour, Calendar.second]
  omega

theorem readFields_colon {colons : Bool} {field n len : Nat} (hfield : field < 3) (hn : n < 10 ^ 2)
    (hlen : 3 < len) (hcolons : field = 0 ∨ colons = true) (k : Clock) (r : List Char) :
    readFields colons k field (fixedDigits 2 n ++ ':' :: r) len =
      readFields true (k.set field n) (field + 1) r (len - 3) := by
  have hmore : ¬len ≤ 3 := Nat.not_le_of_lt hlen
  rw [readFields, if_neg (Nat.not_le_of_lt hfield), digits?_fixedDigits hn]
  rcases hcolons with rfl | rfl
  · simp [peek, hmore]
  · simp [peek, hmore]

def goesOn (r : List Char) : Bool := peek r != '\x00'

theorem readFraction_fixedDigits {n : Nat} (h : n < 10 ^ 6) (r : List Char) :
    readFraction (fixedDigits 6 n ++ r) 6 = some (n, goesOn (r.dropWhile isAsciiDigit)) := by
  simp [readFraction, digits?_fixedDigits h, goesOn]

theorem readFields_fraction {n f : Nat} (hn : n < 10 ^ 2) (hf : f < 10 ^ 6) (k : Clock)
    (r : List Char) :
    readFields true k 2 (fixedDigits 2 n ++ '.' :: (fixedDigits 6 f ++ r)) 9 =
      some ({ k with second := n, micro := f }, goesOn (r.dropWhile isAsciiDigit)) := by
  rw [readFields, if_neg (by decide), digits?_fixedDigits hn]
  simp [peek, readFraction_fixedDigits hf, Clock.set]

theorem div_hour_lt {n : Nat} (h : n < dayLength) : n / hour < 10 ^ 2 := by
  simp only [dayLength, hour, second] at h ⊢
  omega

theorem readClock_minuteText {n : Nat} (h : n < dayLength) {len : Nat} (hlen : 6 < len)
    (r : List Char) :
    readClock (minuteText n ++ ':' :: r) len =
      readFields true { hour := n / hour, minute := n / (60 * second) % 60 } 2 r (len - 6) := by
  have hminute : n / (60 * second) % 60 < 10 ^ 2 := by omega
  have htext : minuteText n ++ ':' :: r =
      fixedDigits 2 (n / hour) ++ ':' :: (fixedDigits 2 (n / (60 * second) % 60) ++ ':' :: r) := by
    simp [minuteText]
  rw [readClock, htext, readFields_colon (by decide) (div_hour_lt h) (by omega) (.inl rfl),
    readFields_colon (by decide) hminute (by omega) (.inr rfl), Nat.sub_sub]
  rfl

theorem readClock_clockText {n : Nat} (h : n < dayLength) (r : List Char) :
    readClock (clockText n ++ r) 15 = some (.ofMicros n, goesOn (r.dropWhile isAsciiDigit)) := by
  have hsecond : n / second % 60 < 10 ^ 2 := by omega
  have hmicro : n % second < 10 ^ 6 := Nat.mod_lt _ (by decide)
  have htext : clockText n ++ r = minuteText n ++ ':' :: (fixedDigits 2 (n / second % 60) ++
      '.' :: (fixedDigits 6 (n % second) ++ r)) := by
    simp [clockText, secondText, fractionText]
  rw [htext, readClock_minuteText h (by decide), readFields_fraction hsecond hmicro]
  rfl

theorem readTime_clockText {n : Nat} (h : n < dayLength) :
    readTime (clockText n) = some (.ofMicros n, none) := by
  have hall : ∀ c ∈ clockText n, (!beginsOffset c) = true := by
    intro c hc
    rw [beginsOffset_of_isClockChar (isClockChar_of_mem_clockText hc)]
    rfl
  have htake : (clockText n).takeWhile (!beginsOffset ·) = clockText n :=
    List.takeWhile_eq_self_iff.2 hall
  have hbytes : byteLength (clockText n) = 15 := by
    rw [byteLength_of_forall fun _ hc => isClockChar_of_mem_clockText hc, length_clockText]
  have hclock := readClock_clockText h []
  rw [List.append_nil] at hclock
  simp [readTime, htake, hbytes, hclock, goesOn, peek]

theorem fault?_of_valid {d : Date} (hv : d.Valid) (hy : d.year ≤ 9999) {n : Nat}
    (hn : n < dayLength) : (Reading.mk d (.ofMicros n) none).fault? = none := by
  have h1 := hv.year_pos
  have h2 := hv.month_pos
  have h3 := hv.month_le
  have h4 := hv.day_pos
  have h5 := hv.day_le
  have hhour : (Clock.ofMicros n).hour ≤ 23 := by
    simp only [Clock.ofMicros, dayLength, hour, second] at hn ⊢
    omega
  have hminute : (Clock.ofMicros n).minute ≤ 59 := by
    simp only [Clock.ofMicros]
    omega
  have hsecond : (Clock.ofMicros n).second ≤ 59 := by
    simp only [Clock.ofMicros]
    omega
  rw [Reading.fault?, if_neg (by simp; omega), if_neg (by simp; omega), if_neg (by simp; omega),
    if_neg (Nat.not_lt.2 hhour), if_neg (Nat.not_lt.2 hminute), if_neg (Nat.not_lt.2 hsecond)]

end Calendar

open Calendar

namespace Moment

theorem stored_eq (t : Moment) : t.stored = t.date.iso ++ ' ' :: clockText t.sinceMidnight := by
  simp [stored, clockText]

theorem sinceMidnight_lt (t : Moment) : t.sinceMidnight < dayLength :=
  Nat.mod_lt _ (by decide)

theorem year_date_le (t : Moment) : t.date.year ≤ 9999 :=
  Date.year_ofNumber_le (Nat.div_lt_of_lt_mul (by
    rw [Nat.mul_comm]
    exact t.wall_lt))

theorem wall_reading (t : Moment) (offset : Option Int) :
    (Reading.mk t.date (.ofMicros t.sinceMidnight) offset).wall = t.wall := by
  rw [Reading.wall, Clock.micros_ofMicros, date, Date.number_ofNumber, sinceMidnight, Nat.mul_comm]
  exact Nat.div_add_mod ..

theorem ofIso_stored (t : Moment) : ofIso t.stored = .ok { t with offset := none } := by
  have hv : t.date.Valid := Date.valid_ofNumber _
  have hread : read t.stored = .ok ⟨t.date, .ofMicros t.sinceMidnight, none⟩ := by
    rw [stored_eq, Calendar.read, dateLength_iso, readDate_iso hv t.year_date_le]
    simp [List.drop_left' (length_iso _), readTime_clockText t.sinceMidnight_lt, orMalformed, bind,
      Except.bind, pure, Except.pure]
  simp [ofIso, hread, Reading.check, checkOffset, fault?_of_valid hv t.year_date_le t.sinceMidnight_lt,
    wall_reading, t.wall_lt, bind, Except.bind]

theorem stored_eq_year_append (t : Moment) :
    ∃ r, t.stored = fixedDigits 4 t.date.year ++ '-' :: r := by
  rw [stored_eq, iso_append]
  exact ⟨_, rfl⟩

theorem stored_eq_append_digit (t : Moment) :
    ∃ r d, d < 10 ∧ t.stored = r ++ [asciiDigit d] := by
  have hlast : fractionText t.sinceMidnight =
      '.' :: fixedDigits 5 (t.sinceMidnight % second / 10) ++
        [asciiDigit (t.sinceMidnight % second % 10)] := rfl
  rw [stored, hlast, ← List.append_assoc]
  exact ⟨_, _, Nat.mod_lt _ (by decide), rfl⟩

end Moment

namespace Numeral

theorem isSpace_of_isAsciiDigit {c : Char} (h : isAsciiDigit c = true) : isSpace c = false := by
  cases hs : isSpace c with
  | false => rfl
  | true =>
    simp only [isAsciiDigit, Bool.and_eq_true, decide_eq_true_eq] at h
    simp only [isSpace, Bool.or_eq_true, beq_iff_eq, Bool.and_eq_true, decide_eq_true_eq] at hs
    rcases hs with rfl | ⟨-, hs⟩
    · exact absurd h (by decide)
    · exact absurd (Char.le_trans h.1 hs) (by decide)

theorem splitSign_of_isAsciiDigit {c : Char} (h : isAsciiDigit c = true) (r : List Char) :
    splitSign (c :: r) = (false, c :: r) := by
  unfold splitSign
  split
  · rename_i he
    cases he
    exact absurd h (by decide)
  · rename_i he
    cases he
    exact absurd h (by decide)
  · rfl

/-- A hyphen after the first digits makes a text no numeral. -/
theorem ofText?_of_hyphen {c : Char} {cs r : List Char} {d : Nat} (hc : isAsciiDigit c = true)
    (hd : d < 10) (hend : ∃ m, c :: cs = m ++ [asciiDigit d])
    (hdrop : (c :: cs).dropWhile isAsciiDigit = '-' :: r) : ofText? (c :: cs) = none := by
  obtain ⟨m, hm⟩ := hend
  have hback : ((c :: cs).reverse.dropWhile isSpace).reverse = c :: cs := by
    rw [hm, List.reverse_append, List.reverse_singleton, List.singleton_append,
      List.dropWhile_cons_of_neg (by simp [isSpace_of_isAsciiDigit (isAsciiDigit_asciiDigit hd)]),
      List.reverse_cons, List.reverse_reverse]
  have hfront : (c :: cs).dropWhile isSpace = c :: cs := by
    rw [List.dropWhile_cons_of_neg (by simp [isSpace_of_isAsciiDigit hc])]
  simp only [ofText?, hback, hfront, splitSign_of_isAsciiDigit hc, readDigits, hdrop]
  simp [exponent?, bind]

theorem ofText?_stored (t : Moment) : ofText? t.stored = none := by
  obtain ⟨r, hr⟩ := t.stored_eq_year_append
  obtain ⟨m, d, hd, hm⟩ := t.stored_eq_append_digit
  have hdrop : t.stored.dropWhile isAsciiDigit = '-' :: r := by
    rw [hr, dropWhile_isAsciiDigit_fixedDigits _ _ (by decide)]
  have hpeek := isAsciiDigit_peek_fixedDigits 4 t.date.year (by decide) ('-' :: r)
  rw [← hr] at hpeek
  cases hs : t.stored with
  | nil =>
    rw [hs] at hdrop
    cases hdrop
  | cons c cs =>
    rw [hs] at hdrop hpeek hm
    exact ofText?_of_hyphen hpeek hd ⟨m, hm⟩ hdrop

end Numeral

@[simp] theorem Affinity.numeric_convert_stored (t : Moment) :
    numeric.convert (.text (.ofList t.stored)) = .text (.ofList t.stored) := by
  simp [convert, number?, Numeral.ofText?_stored]

end RightsStore
