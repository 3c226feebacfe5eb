namespace RightsStore.Text

abbrev Bytes := List UInt8

def hexDigit (n : Nat) : Char :=
  if n < 10 then Char.ofNat ('0'.toNat + n) else Char.ofNat ('a'.toNat + (n - 10))

def hexValue? (c : Char) : Option Nat :=
  if '0' ≤ c && c ≤ '9' then some (c.toNat - '0'.toNat)
  else if 'a' ≤ c && c ≤ 'f' then some (c.toNat - 'a'.toNat + 10)
  else if 'A' ≤ c && c ≤ 'F' then some (c.toNat - 'A'.toNat + 10)
  else none

def hexDigits : Nat → Nat → List Char
  | 0, _ => []
  | width + 1, n => hexDigits width (n / 16) ++ [hexDigit (n % 16)]

def hexOfBytes (bs : Bytes) : List Char := bs.flatMap fun b => hexDigits 2 b.toNat

def isHexSpace (c : Char) : Bool := c == ' ' || '\t' ≤ c && c ≤ '\r'

/-- Reads pairs of digits from a position on, or says where a digit is missing. Blanks may stand
before a pair. -/
def readPairs : (position : Nat) → List Char → Except Nat Bytes
  | _, [] => .ok []
  | k, [a] =>
    if isHexSpace a then .ok [] else .error (if (hexValue? a).isSome then k + 1 else k)
  | k, a :: b :: r =>
    if isHexSpace a then readPairs (k + 1) (b :: r)
    else
      match hexValue? a, hexValue? b with
      | none, _ => .error k
      | _, none => .error (k + 1)
      | some hi, some lo => (readPairs (k + 2) r).map (UInt8.ofNat (16 * hi + lo) :: ·)

def bytesOfHex (cs : List Char) : Except Nat Bytes :=
  match cs.findIdx? (0x80 ≤ ·.toNat) with
  | some k => .error k
  | none => readPairs 0 cs

@[simp] theorem length_hexDigits (width n : Nat) : (hexDigits width n).length = width := by
  induction width generalizing n with
  | zero => rfl
  | succ width ih => simp [hexDigits, ih]

end RightsStore.Text
