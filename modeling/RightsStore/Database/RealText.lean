import RightsStore.Database.Numeral

namespace RightsStore.RealText

open Numeral (double extended)

def rounded (q : Rat) : Rat := if q = 0 then 0 else extended q

def constant (num den : Nat) : Rat :=
  match Double.nearest num den with
  | .finite q => q
  | .infinite _ => 0

/-- A number from 1 to 10, and the power of ten that it is to be multiplied by. -/
structure Scaled where
  value : Rat
  exponent : Int

def growScale (q ten : Rat) (e : Nat) : (fuel : Nat) → Rat × Nat → Rat × Nat
  | 0, s => s
  | fuel + 1, (scale, n) =>
    if rounded (ten * scale) ≤ q && n ≤ 350 then
      growScale q ten e fuel (rounded (scale * ten), n + e)
    else (scale, n)

def raise (bound ten : Rat) (e : Nat) : (fuel : Nat) → Scaled → Scaled
  | 0, s => s
  | fuel + 1, s =>
    if s.value < bound then raise bound ten e fuel ⟨rounded (s.value * ten), s.exponent - e⟩ else s

def scale (q : Rat) : Scaled :=
  let s := growScale q (constant (Nat.pow 10 100) 1) 100 4 (1, 0)
  let s := growScale q 10000000000 10 36 s
  let (s, n) := growScale q 10 1 352 s
  raise 1 10 1 9 (raise (constant 1 100000000) 100000000 8 42 ⟨rounded (q / s), n⟩)

def halfUnit : Rat :=
  match double (constant 5 100000 * constant 1 10000000000) with
  | .finite q => q
  | .infinite _ => 0

def addHalf (s : Scaled) : Scaled :=
  let value := rounded (s.value + halfUnit)
  if 10 ≤ value then ⟨rounded (value * constant 1 10), s.exponent + 1⟩ else ⟨value, s.exponent⟩

def takeDigits : (count : Nat) → Rat → List Char
  | 0, _ => []
  | count + 1, q =>
    Char.ofNat ('0'.toNat + q.floor.toNat) :: takeDigits count (rounded ((q - q.floor) * 10))

def fraction (ds : List Char) : List Char :=
  let ds := (ds.reverse.dropWhile (· == '0')).reverse
  '.' :: (if ds.isEmpty then ['0'] else ds)

def exponent (e : Int) : List Char :=
  let ds := Nat.toDigits 10 e.natAbs
  'e' :: (if e < 0 then '-' else '+') :: (if ds.length < 2 then '0' :: ds else ds)

/-- Powers of ten below -4 or above 14 are written with an exponent. -/
def positive (q : Rat) : List Char :=
  let s := addHalf (scale q)
  let ds := takeDigits 15 s.value
  if s.exponent < -4 || 14 < s.exponent then
    ds.take 1 ++ fraction (ds.drop 1) ++ exponent s.exponent
  else if s.exponent < 0 then
    '0' :: fraction (List.replicate (-s.exponent - 1).toNat '0' ++ ds)
  else
    let n := s.exponent.toNat + 1
    ds.take n ++ fraction (ds.drop n)

def ofDouble : Double → List Char
  | .infinite s => (if s then "-Inf" else "Inf").toList
  | .finite q =>
    if q = 0 then "0.0".toList else (if q < 0 then ['-'] else []) ++ positive q.abs

end RightsStore.RealText
