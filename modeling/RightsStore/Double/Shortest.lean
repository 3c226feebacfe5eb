import RightsStore.Double
import RightsStore.Text.Blank

namespace RightsStore.Double

open Text

def tenTo (e : Int) : Rat := if 0 ≤ e then 10 ^ e.toNat else 1 / 10 ^ (-e).toNat

def magnitude (q : Rat) : Int :=
  let e : Int := (Nat.toDigits 10 q.num.natAbs).length - (Nat.toDigits 10 q.den).length
  if tenTo e ≤ q then e else e - 1

def readsBack (q c : Rat) : Bool := nearest c.num.natAbs c.den = .finite q

def unitsNear? (q unit : Rat) : Option Nat :=
  let s := q / unit
  let n := s.floor.toNat
  let excess := 2 * (s - n)
  let low := readsBack q (n * unit)
  let high := readsBack q ((n + 1) * unit)
  let nearLow := excess < 1 || excess = 1 && n % 2 = 0
  if low && (nearLow || !high) then some n
  else if high then some (n + 1)
  else none

structure Digits where
  digits : List Char
  point : Int
  deriving DecidableEq, Repr

def Digits.ofUnits (n : Nat) (exponent : Int) : Digits :=
  let ds := Nat.toDigits 10 n
  ⟨dropTrailing (· == '0') ds, exponent + ds.length⟩

def enoughDigits : Nat := 17

def shortestDigits (q : Rat) : Digits :=
  let lastOf := fun (k : Nat) => magnitude q - k
  let found := (List.range enoughDigits).findSome? fun k =>
    (unitsNear? q (tenTo (lastOf k))).map fun n => Digits.ofUnits n (lastOf k)
  found.getD ⟨[], 0⟩

def shownExponent (e : Int) : List Char :=
  let ds := Nat.toDigits 10 e.natAbs
  'e' :: (if e < 0 then '-' else '+') :: (if ds.length < 2 then '0' :: ds else ds)

/-- Digits with their point. Points further than four zeros before or sixteen digits after the first
digit are written with an exponent. -/
def Digits.shown (d : Digits) : List Char :=
  if -4 < d.point && d.point ≤ 0 then
    '0' :: '.' :: List.replicate (-d.point).toNat '0' ++ d.digits
  else if 0 < d.point && d.point ≤ 16 then
    let whole := d.digits.take d.point.toNat
    let fraction := d.digits.drop d.point.toNat
    whole ++ List.replicate (d.point.toNat - whole.length) '0' ++
      '.' :: (if fraction.isEmpty then ['0'] else fraction)
  else
    let rest := d.digits.drop 1
    d.digits.take 1 ++ (if rest.isEmpty then [] else '.' :: rest) ++ shownExponent (d.point - 1)

def shown : Double → List Char
  | .infinite s => (if s then "-inf" else "inf").toList
  | .finite q =>
    if q = 0 then "0.0".toList
    else (if q < 0 then ['-'] else []) ++ (shortestDigits q.abs).shown

end RightsStore.Double
