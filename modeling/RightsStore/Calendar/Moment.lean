import RightsStore.Calendar.Day

namespace RightsStore

namespace Calendar

def second : Nat := 1000000
def hour : Nat := 3600 * second
def dayLength : Nat := 24 * hour

def wallSpan : Nat := daySpan * dayLength

end Calendar

open Calendar

/-- Microseconds ahead of UTC, less than a day either way. -/
structure Offset where
  micros : Int
  lower : -(dayLength : Int) < micros
  upper : micros < dayLength
  deriving DecidableEq

def Offset.utc : Offset := ⟨0, by decide, by decide⟩

def Offset.ofMicros? (n : Int) : Option Offset :=
  if h : -(dayLength : Int) < n ∧ n < dayLength then some ⟨n, h.1, h.2⟩ else none

/-- `wall` is in microseconds from the beginning of year 1. Without an offset a moment is naive. -/
structure Moment where
  wall : Nat
  wall_lt : wall < wallSpan
  offset : Option Offset
  deriving DecidableEq

namespace Moment

def isAware (t : Moment) : Bool := t.offset.isSome

def instant (t : Moment) : Int :=
  match t.offset with
  | none => t.wall
  | some o => t.wall - o.micros

def ofInstant? (i : Int) : Option Moment :=
  if h : i.toNat < wallSpan ∧ 0 ≤ i then some ⟨i.toNat, h.1, some .utc⟩ else none

def utc? (t : Moment) : Option Moment := ofInstant? t.instant

def wholeSecond (t : Moment) : Moment :=
  { t with
    wall := t.wall - t.wall % second
    wall_lt := Nat.lt_of_le_of_lt (Nat.sub_le ..) t.wall_lt }

/-- Two aware moments are the same when their instants are, two naive ones when their walls are;
an aware and a naive moment differ. -/
def same (s t : Moment) : Bool := s.isAware == t.isAware && s.instant == t.instant

theorem instant_ofInstant? {i : Int} {t : Moment} (h : ofInstant? i = some t) :
    t.instant = i := by
  unfold ofInstant? at h
  split at h
  · cases h
    rename_i hi
    simp [instant, Offset.utc, Int.toNat_of_nonneg hi.2]
  · cases h

theorem instant_utc? {t u : Moment} (h : t.utc? = some u) : u.instant = t.instant :=
  instant_ofInstant? h

def date (t : Moment) : Date := .ofNumber (t.wall / dayLength)

def sinceMidnight (t : Moment) : Nat := t.wall % dayLength

end Moment

end RightsStore
