namespace RightsStore

inductive Double
  | finite (value : Rat)
  | infinite (negative : Bool)
  deriving DecidableEq

namespace Double

def roundQuotient (num den : Nat) : Nat :=
  let q := num / den
  if 2 * (num % den) < den then q
  else if den < 2 * (num % den) then q + 1
  else q + q % 2

def lastBitOf (bits : Nat) (num den : Nat) : Int :=
  let b : Int := num.log2 - den.log2
  let below :=
    if 0 ≤ b then num < den * Nat.pow 2 b.toNat else num * Nat.pow 2 (-b).toNat < den
  (if below then b else b + 1) - bits

def lastBit (num den : Nat) : Int := max (-1074) (lastBitOf 53 num den)

def nearest (num den : Nat) : Double :=
  if num = 0 then .finite 0
  else
    let e := lastBit num den
    if 0 ≤ e then
      let m := roundQuotient num (den * Nat.pow 2 e.toNat) * Nat.pow 2 e.toNat
      if Nat.pow 2 1024 ≤ m then .infinite false else .finite m
    else .finite ((roundQuotient (num * Nat.pow 2 (-e).toNat) den : Rat) / Nat.pow 2 (-e).toNat)

def negate : Double → Double
  | .finite q => .finite (-q)
  | .infinite s => .infinite !s

def ofDigits (ds : List Nat) (exponent : Int) : Double :=
  let ds := ds.dropWhile (· == 0)
  let n := ds.foldl (fun n d => 10 * n + d) 0
  let magnitude := exponent + ds.length
  if ds.isEmpty || magnitude < -400 then .finite 0
  else if 400 < magnitude then .infinite false
  else if 0 ≤ exponent then nearest (n * Nat.pow 10 exponent.toNat) 1
  else nearest n (Nat.pow 10 (-exponent).toNat)

def truncated? : Double → Option Int
  | .finite q => some (q.num.tdiv q.den)
  | .infinite _ => none

end Double

end RightsStore
