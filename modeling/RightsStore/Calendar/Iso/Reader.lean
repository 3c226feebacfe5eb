import RightsStore.Calendar.Iso
import RightsStore.Text.Integer
import RightsStore.Text.Quoted

namespace RightsStore

open Calendar Text

inductive MomentFault
  | malformed
  | offset (micros : Int)
  | year (y : Nat)
  | month
  | day
  | hour
  | minute
  | second
  deriving DecidableEq, Repr

namespace Calendar

def spanText (micros : Int) : List Char :=
  let part := fun (name : String) (n : Int) => if n = 0 then [] else [s!"{name}={n}"]
  let parts := part "days" (micros.fdiv dayLength) ++
    part "seconds" ((micros.fmod dayLength).fdiv Calendar.second) ++
    part "microseconds" (micros.fmod Calendar.second)
  (", ".intercalate (if parts.isEmpty then ["0"] else parts)).toList

end Calendar

def MomentFault.message (text : List Char) : MomentFault → String
  | .malformed => "Invalid isoformat string: " ++ .ofList (quoted text)
  | .offset n => "offset must be a timedelta strictly between -timedelta(hours=24) and " ++
    "timedelta(hours=24), not datetime.timedelta(" ++ .ofList (spanText n) ++ ")."
  | .year y => s!"year {y} is out of range"
  | .month => "month must be in 1..12"
  | .day => "day is out of range for month"
  | .hour => "hour must be in 0..23"
  | .minute => "minute must be in 0..59"
  | .second => "second must be in 0..59"

namespace Calendar

structure Clock where
  hour : Nat := 0
  minute : Nat := 0
  second : Nat := 0
  micro : Nat := 0

/-- What a text says before it is checked against the calendar; the offset is in microseconds. -/
structure Reading where
  date : Date
  clock : Clock
  offset : Option Int

def peek (cs : List Char) : Char := cs.headD '\x00'

def digits? (n : Nat) (cs : List Char) : Option (Nat × List Char) :=
  let ds := cs.take n
  if ds.length = n && ds.all isAsciiDigit then some (ofDigits (ds.map asciiDigitValue), cs.drop n)
  else none

/-- Where the date ends and the character before the time stands. Of a date with a week, `2024-W09`
or `2024W09`, the digits that follow decide whether it goes on with a weekday. -/
def dateLength (cs : List Char) : Nat :=
  let digitAt := fun i => (cs[i]?).any isAsciiDigit
  if cs.length = 7 then 7
  else if cs[4]? = some '-' then
    if cs[5]? = some 'W' then
      if cs[8]? = some '-' then if digitAt 10 then 8 else 10 else 8
    else 10
  else if cs[4]? = some 'W' then
    let pos := 7 + ((cs.drop 7).takeWhile isAsciiDigit).length
    if pos < 9 then pos else if pos % 2 = 0 then 7 else 8
  else 8

def weekDate (year week day : Nat) : Except MomentFault Date :=
  if year = 0 then
    if 1 ≤ week && week ≤ 52 && 1 ≤ day && day ≤ 7 then .ok ⟨1, 0, 1⟩ else .error .malformed
  else if week = 0 || 53 < week || (week = 53 && !hasLongWeeks year) then .error .malformed
  else if day = 0 || 7 < day then .error .malformed
  else .ok (.ofNumber (firstMonday year + (week - 1) * 7 + (day - 1)))

def orMalformed (x : Option α) : Except MomentFault α :=
  match x with
  | some a => .ok a
  | none => .error .malformed

def hyphen (hyphens : Bool) (cs : List Char) : Except MomentFault (List Char) :=
  if !hyphens then .ok cs
  else if peek cs = '-' then .ok cs.tail
  else .error .malformed

def readDate (cs : List Char) (len : Nat) : Except MomentFault Date := do
  let (year, r) ← orMalformed (digits? 4 cs)
  let hyphens := peek r = '-'
  let r := if hyphens then r.tail else r
  if peek r = 'W' then
    let (week, r) ← orMalformed (digits? 2 r.tail)
    if cs.length - r.length < len then
      let r ← hyphen hyphens r
      let (day, _) ← orMalformed (digits? 1 r)
      weekDate year week day
    else weekDate year week 1
  else
    let (month, r) ← orMalformed (digits? 2 r)
    let r ← hyphen hyphens r
    let (day, r) ← orMalformed (digits? 2 r)
    if cs.length - r.length = len then return ⟨year, month, day⟩ else .error .malformed

def byteLength (cs : List Char) : Nat := cs.foldr (fun c n => c.utf8Size + n) 0

/-- Reads the fraction of a second, the next `len` bytes; digits after the sixth are dropped.
Also tells whether anything but a `NUL` follows the digits. -/
def readFraction (cs : List Char) (len : Nat) : Option (Nat × Bool) := do
  let n := min len 6
  let (f, r) ← digits? n cs
  return (f * Nat.pow 10 (6 - n), peek (r.dropWhile isAsciiDigit) != '\x00')

def Clock.set (k : Clock) (field n : Nat) : Clock :=
  match field with
  | 0 => { k with hour := n }
  | 1 => { k with minute := n }
  | _ => { k with second := n }

/-- Reads the fields of a clock from number `field` on out of the next `len` bytes. Whether
there are colons is settled after the hour. Also tells whether anything but a `NUL` follows. -/
def readFields (colons : Bool) (k : Clock) (field : Nat) (cs : List Char) (len : Nat) :
    Option (Clock × Bool) := do
  if 3 ≤ field then
    let (f, more) ← readFraction cs len
    return ({ k with micro := f }, more)
  else
    let (n, r) ← digits? 2 cs
    let k := k.set field n
    let c := peek r
    let colons := if field = 0 then c = ':' else colons
    if len ≤ 3 then return (k, c != '\x00')
    else if colons && c = ':' then readFields colons k (field + 1) r.tail (len - 3)
    else if c = '.' || c = ',' then
      let (f, more) ← readFraction r.tail (len - 3)
      return ({ k with micro := f }, more)
    else if !colons then readFields colons k (field + 1) r (len - 2)
    else none
termination_by 3 - field

def readClock (cs : List Char) (len : Nat) : Option (Clock × Bool) :=
  readFields false {} 0 cs len

/-- Reads what follows the sign of an offset. An offset of no whole second is none at all. -/
def readOffset (negative : Bool) (cs : List Char) : Option Int := do
  let (k, more) ← readClock cs (byteLength cs)
  if more then none
  else
    let seconds := k.hour * 3600 + k.minute * 60 + k.second
    return if seconds = 0 then 0 else applySign negative (seconds * Calendar.second + k.micro)

def beginsOffset (c : Char) : Bool := c == '+' || c == '-' || c == 'Z'

def readTime (cs : List Char) : Option (Clock × Option Int) := do
  let clock := cs.takeWhile (!beginsOffset ·)
  let (k, more) ← readClock cs (byteLength clock)
  match cs.drop clock.length with
  | [] => if more then none else return (k, none)
  | 'Z' :: r => if peek r = '\x00' then return (k, some 0) else none
  | c :: r => return (k, some (← readOffset (c == '-') r))

def read (cs : List Char) : Except MomentFault Reading := do
  let len := dateLength cs
  let d ← readDate cs len
  match cs.drop len with
  | [] => return ⟨d, {}, none⟩
  | _ :: time =>
    let (k, offset) ← orMalformed (readTime time)
    return ⟨d, k, offset⟩

def Clock.micros (k : Clock) : Nat :=
  ((k.hour * 60 + k.minute) * 60 + k.second) * Calendar.second + k.micro

def Reading.wall (r : Reading) : Nat := r.date.number * dayLength + r.clock.micros

def Reading.fault? (r : Reading) : Option MomentFault :=
  if r.date.year = 0 || 9999 < r.date.year then some (.year r.date.year)
  else if r.date.month = 0 || 12 < r.date.month then some .month
  else if r.date.day = 0 || daysInMonth r.date.year r.date.month < r.date.day then some .day
  else if 23 < r.clock.hour then some .hour
  else if 59 < r.clock.minute then some .minute
  else if 59 < r.clock.second then some .second
  else none

def checkOffset : Option Int → Except MomentFault (Option Offset)
  | none => .ok none
  | some n =>
    match Offset.ofMicros? n with
    | some o => .ok (some o)
    | none => .error (.offset n)

def Reading.check (r : Reading) : Except MomentFault Moment := do
  let offset ← checkOffset r.offset
  match r.fault? with
  | some f => .error f
  | none => if h : r.wall < wallSpan then .ok ⟨r.wall, h, offset⟩ else .error (.year r.date.year)

end Calendar

def Moment.ofIso (cs : List Char) : Except MomentFault Moment := do (← read cs).check

end RightsStore
