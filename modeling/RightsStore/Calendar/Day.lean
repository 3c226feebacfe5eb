namespace RightsStore.Calendar

def isLeap (y : Nat) : Bool := y % 4 == 0 && (y % 100 != 0 || y % 400 == 0)

def monthLengths (leap : Bool) : List Nat :=
  [31, if leap then 29 else 28, 31, 30, 31, 30, 31, 31, 30, 31, 30, 31]

def daysInMonth (y m : Nat) : Nat := ((monthLengths (isLeap y))[m - 1]?).getD 0

def daysOfYears (y : Nat) : Nat := 365 * y + y / 4 - y / 100 + y / 400

def total : List Nat → Nat
  | [] => 0
  | k :: ks => k + total ks

def daysOfMonths (leap : Bool) (m : Nat) : Nat := total ((monthLengths leap).take (m - 1))

def daySpan : Nat := 3652059

structure Date where
  year : Nat
  month : Nat
  day : Nat
  deriving DecidableEq, Repr

def Date.number (d : Date) : Nat :=
  daysOfYears (d.year - 1) + daysOfMonths (isLeap d.year) d.month + (d.day - 1)

def monthFrom (m n : Nat) : List Nat → Nat × Nat
  | [] => (m, n + 1)
  | k :: ks => if n < k then (m, n + 1) else monthFrom (m + 1) (n - k) ks

/-- The year that holds day `n`, less one, and the days before `n` in it. A cycle of 400 years is
three centuries of 36524 days and a longer one, a century is cycles of four years, and the last
year of such a cycle is the longer one. -/
def yearOfNumber (n : Nat) : Nat × Nat :=
  let cycle := n % 146097
  let century := min (cycle / 36524) 3
  let inCentury := cycle - 36524 * century
  let inFour := inCentury % 1461
  let year := min (inFour / 365) 3
  (400 * (n / 146097) + 100 * century + 4 * (inCentury / 1461) + year, inFour - 365 * year)

def Date.ofNumber (n : Nat) : Date :=
  let (y, r) := yearOfNumber n
  let (m, d) := monthFrom 1 r (monthLengths (isLeap (y + 1)))
  ⟨y + 1, m, d⟩

def weekday (n : Nat) : Nat := n % 7

/-- The Monday that begins week 1 of a year: the week that holds the year's first Thursday. -/
def firstMonday (y : Nat) : Nat :=
  let first := daysOfYears (y - 1)
  if weekday first ≤ 3 then first - weekday first else first + 7 - weekday first

/-- A year has a week 53 when it begins on a Thursday, or on a Wednesday if it is a leap year. -/
def hasLongWeeks (y : Nat) : Bool :=
  let first := weekday (daysOfYears (y - 1))
  first == 3 || (first == 2 && isLeap y)

end RightsStore.Calendar
