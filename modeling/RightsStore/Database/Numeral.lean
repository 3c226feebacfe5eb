import RightsStore.Double
import RightsStore.Text.Integer

namespace RightsStore

open Text

/-- A sign, digits before and after a point, and an exponent. Without point and exponent a numeral
is `whole`. -/
structure Numeral where
  negative : Bool
  digits : List Nat
  fraction : List Nat
  exponent : Int
  whole : Bool
  deriving DecidableEq, Repr

namespace Numeral

def isSpace (c : Char) : Bool := c == ' ' || ('\t' ≤ c && c ≤ '\r')

def readDigits (cs : List Char) : List Nat × List Char :=
  ((cs.takeWhile isAsciiDigit).map asciiDigitValue, cs.dropWhile isAsciiDigit)

def exponentOfDigits (ds : List Nat) : Nat :=
  ds.foldl (fun e d => if e < 10000 then 10 * e + d else 10000) 0

def exponent? : List Char → Option (Int × Bool)
  | [] => some (0, false)
  | e :: r =>
    let (negative, r) := splitSign r
    let (ds, r) := readDigits r
    if (e == 'e' || e == 'E') && !ds.isEmpty && r.isEmpty then
      some (applySign negative (exponentOfDigits ds), true)
    else none

def ofText? (cs : List Char) : Option Numeral := do
  let cs := (cs.reverse.dropWhile isSpace).reverse.dropWhile isSpace
  let (negative, r) := splitSign cs
  let (digits, r) := readDigits r
  let dotted := r.head? == some '.'
  let (fraction, r) := if dotted then readDigits r.tail else ([], r)
  let (exponent, scaled) ← exponent? r
  if digits.isEmpty && fraction.isEmpty then none
  else return { negative, digits, fraction, exponent, whole := !dotted && !scaled }

/-- No more digits are kept once the number that they write has reached this. -/
def significandLimit : Nat := (0x8000000000000000 - 10) / 10

def keepDigit (p : Nat × Int) (d : Nat) : Nat × Int :=
  if p.1 < significandLimit then (10 * p.1 + d, p.2) else (p.1, p.2 + 1)

def keepFraction (p : Nat × Int) (d : Nat) : Nat × Int :=
  if p.1 < significandLimit then (10 * p.1 + d, p.2 - 1) else p

def kept (n : Numeral) : Nat × Int :=
  let (s, d) := n.fraction.foldl keepFraction (n.digits.foldl keepDigit (0, 0))
  (s, n.exponent + d)

def raise (s : Nat) : (e : Nat) → Nat × Nat
  | 0 => (s, 0)
  | e + 1 => if 0x7fffffffffffffff / 10 ≤ s then (s, e + 1) else raise (10 * s) e

def lower (s : Nat) : (e : Nat) → Nat × Nat
  | 0 => (s, 0)
  | e + 1 => if s % 10 = 0 then lower (s / 10) e else (s, e + 1)

def extended (q : Rat) : Rat :=
  let num := q.num.natAbs
  let e := Double.lastBitOf 64 num q.den
  if 0 ≤ e then (Double.roundQuotient num (q.den * Nat.pow 2 e.toNat) * Nat.pow 2 e.toNat : Nat)
  else (Double.roundQuotient (num * Nat.pow 2 (-e).toNat) q.den : Rat) / Nat.pow 2 (-e).toNat

def power (x r : Rat) (e : Nat) : Rat :=
  if h : e ≤ 1 then if e = 1 then extended (r * x) else r
  else power (extended (x * x)) (if e % 2 = 1 then extended (r * x) else r) (e / 2)
termination_by e
decreasing_by omega

def double (q : Rat) : Double := Double.nearest q.num.natAbs q.den

def greatPower : Double := Double.nearest (Nat.pow 10 308) 1

def scaleDouble (multiply : Bool) : Double → Double → Double
  | .finite p, .finite q => double (if multiply then p * q else p / q)
  | p, _ => p

def scaled (s : Nat) (multiply : Bool) (e : Nat) : Double :=
  let step := fun (q : Rat) => double (extended (if multiply then s * q else s / q))
  if e = 0 then double s
  else if e ≤ 307 then step (power 10 1 e)
  else if e < 342 then scaleDouble multiply (step (power 10 1 (e - 308))) greatPower
  else if multiply then .infinite false else .finite 0

def toDouble (n : Numeral) : Double :=
  let (s, e) := n.kept
  let x :=
    if s = 0 then .finite 0
    else if 0 ≤ e then
      let (s, e) := raise s e.toNat
      scaled s true e
    else
      let (s, e) := lower s (-e).toNat
      scaled s false e
  if n.negative then x.negate else x

def toInt (n : Numeral) : Int := applySign n.negative (ofDigits n.digits)

end Numeral

end RightsStore
