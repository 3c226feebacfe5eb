import RightsStore.Text.Utf8

namespace RightsStore.Text

def percentBytes : List Char → Bytes
  | [] => []
  | '%' :: a :: b :: r =>
    match hexValue? a, hexValue? b with
    | some hi, some lo => UInt8.ofNat (16 * hi + lo) :: percentBytes r
    | _, _ => 0x25 :: percentBytes (a :: b :: r)
  | c :: r => String.utf8EncodeChar c ++ percentBytes r

def percentDecoded (cs : List Char) : List Char :=
  if cs.contains '%' then Utf8.decodeLossy (percentBytes cs) else cs

def formDecoded (cs : List Char) : List Char :=
  percentDecoded (cs.map fun c => if c = '+' then ' ' else c)

def isUnreserved (c : Char) : Bool := c.isAlphanum || ['_', '.', '-', '~'].contains c

def percentByte (b : UInt8) : List Char := '%' :: (hexDigits 2 b.toNat).map Char.toUpper

def percentEncoded (safe : List Char) (cs : List Char) : List Char :=
  cs.flatMap fun c =>
    if isUnreserved c || safe.contains c then [c] else (String.utf8EncodeChar c).flatMap percentByte

def formEncoded (cs : List Char) : List Char :=
  (percentEncoded [' '] cs).map fun c => if c = ' ' then '+' else c

@[simp] theorem percentEncoded_nil (safe : List Char) : percentEncoded safe [] = [] := rfl

end RightsStore.Text
