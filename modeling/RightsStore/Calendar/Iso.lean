import RightsStore.Calendar.Moment
import RightsStore.Text.Digit

namespace RightsStore

open Text

namespace Calendar

def Date.iso (d : Date) : List Char :=
  fixedDigits 4 d.year ++ '-' :: fixedDigits 2 d.month ++ '-' :: fixedDigits 2 d.day

def minuteText (n : Nat) : List Char :=
  fixedDigits 2 (n / hour) ++ ':' :: fixedDigits 2 (n / (60 * second) % 60)

def secondText (n : Nat) : List Char := minuteText n ++ ':' :: fixedDigits 2 (n / second % 60)

def fractionText (n : Nat) : List Char := '.' :: fixedDigits 6 (n % second)

def clockIso (n : Nat) : List Char :=
  secondText n ++ if n % second = 0 then [] else fractionText n

end Calendar

open Calendar

def Offset.iso (o : Offset) : List Char :=
  let n := o.micros.natAbs
  (if o.micros < 0 then '-' else '+') :: if n % (60 * second) = 0 then minuteText n else clockIso n

namespace Moment

def iso (t : Moment) : List Char :=
  t.date.iso ++ 'T' :: clockIso t.sinceMidnight ++ (t.offset.map Offset.iso).getD []

def stored (t : Moment) : List Char :=
  t.date.iso ++ ' ' :: secondText t.sinceMidnight ++ fractionText t.sinceMidnight

end Moment

end RightsStore
