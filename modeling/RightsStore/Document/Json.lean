import RightsStore.Calendar.Iso
import RightsStore.Document
import RightsStore.Double.Shortest
import RightsStore.Text.Digit

namespace RightsStore.Document

open Text

def setField (fields : List (String × Document)) (name : String) (d : Document) :
    List (String × Document) :=
  if fields.any (·.1 == name) then fields.map fun f => if f.1 == name then (name, d) else f
  else fields ++ [(name, d)]

namespace Json

def isSpace (c : Char) : Bool := c == ' ' || c == '\n' || c == '\r' || c == '\t'

def skip (cs : List Char) : List Char := cs.dropWhile isSpace

def escape? : Char → Option Char
  | 'n' => some '\n'
  | 't' => some '\t'
  | 'r' => some '\r'
  | 'b' => some '\x08'
  | 'f' => some '\x0c'
  | '"' => some '"'
  | '\\' => some '\\'
  | '/' => some '/'
  | _ => none

def unit? (a b c d : Char) : Option Nat := do
  return (((← hexValue? a) * 16 + (← hexValue? b)) * 16 + (← hexValue? c)) * 16 + (← hexValue? d)

/-- Reads on until the closing quote. A character outside the basic plane is escaped as a pair of
units. -/
def readText : List Char → Option (List Char × List Char)
  | '"' :: r => some ([], r)
  | '\\' :: 'u' :: a :: b :: c :: d :: '\\' :: 'u' :: e :: f :: g :: h :: r => do
    let hi ← unit? a b c d
    let lo ← unit? e f g h
    if 0xd800 ≤ hi && hi < 0xdc00 && 0xdc00 ≤ lo && lo < 0xe000 then
      let (s, r) ← readText r
      return (Char.ofNat (0x10000 + (hi - 0xd800) * 0x400 + (lo - 0xdc00)) :: s, r)
    else
      let (s, r) ← readText ('\\' :: 'u' :: e :: f :: g :: h :: r)
      return (Char.ofNat hi :: s, r)
  | '\\' :: 'u' :: a :: b :: c :: d :: r => do
    let n ← unit? a b c d
    let (s, r) ← readText r
    return (Char.ofNat n :: s, r)
  | '\\' :: c :: r => do
    let c ← escape? c
    let (s, r) ← readText r
    return (c :: s, r)
  | c :: r => do
    let (s, r) ← readText r
    return (c :: s, r)
  | [] => none

def readDigits (cs : List Char) : List Nat × List Char :=
  ((cs.takeWhile isAsciiDigit).map asciiDigitValue, cs.dropWhile isAsciiDigit)

def readExponent : List Char → Option (Int × List Char)
  | '-' :: r => let (ds, r) := readDigits r; if ds.isEmpty then none else some (-ofDigits ds, r)
  | '+' :: r => let (ds, r) := readDigits r; if ds.isEmpty then none else some (ofDigits ds, r)
  | r => let (ds, r) := readDigits r; if ds.isEmpty then none else some (ofDigits ds, r)

def readFraction : List Char → List Nat × List Char
  | '.' :: r => readDigits r
  | r => ([], r)

def startsExponent : List Char → Bool
  | c :: _ => c == 'e' || c == 'E'
  | [] => false

def ofDouble (negative : Bool) (x : Double) : Document :=
  if !negative then .real x
  else if x = .finite 0 then .irregular .negativeZero
  else .real x.negate

def readNumber (cs : List Char) : Option (Document × List Char) :=
  let negative := cs.head? == some '-'
  let (whole, r) := readDigits (if negative then cs.tail else cs)
  if whole.isEmpty then none
  else
    let (fraction, r) := readFraction r
    let double := fun (e : Int) =>
      ofDouble negative (Double.ofDigits (whole ++ fraction) (e - fraction.length))
    if startsExponent r then do
      let (e, r) ← readExponent r.tail
      return (double e, r)
    else if fraction.isEmpty then
      some (.int (if negative then -ofDigits whole else ofDigits whole), r)
    else some (double 0, r)

mutual

def readValue : (fuel : Nat) → List Char → Option (Document × List Char)
  | 0, _ => none
  | fuel + 1, cs =>
    match skip cs with
    | 'n' :: 'u' :: 'l' :: 'l' :: r => some (.null, r)
    | 't' :: 'r' :: 'u' :: 'e' :: r => some (.flag true, r)
    | 'f' :: 'a' :: 'l' :: 's' :: 'e' :: r => some (.flag false, r)
    | '"' :: r => (readText r).map fun (s, r) => (.text (.ofList s), r)
    | '[' :: r =>
      match skip r with
      | ']' :: r => some (.list [], r)
      | r => (readItems fuel r).map fun (ds, r) => (.list ds, r)
    | '\x7b' :: r =>
      match skip r with
      | '\x7d' :: r => some (.object [], r)
      | r => (readFields fuel r []).map fun (fs, r) => (.object fs, r)
    | 'N' :: 'a' :: 'N' :: r => some (.irregular .notNumber, r)
    | 'I' :: 'n' :: 'f' :: 'i' :: 'n' :: 'i' :: 't' :: 'y' :: r => some (.real (.infinite false), r)
    | '-' :: 'I' :: 'n' :: 'f' :: 'i' :: 'n' :: 'i' :: 't' :: 'y' :: r =>
      some (.real (.infinite true), r)
    | r => readNumber r

def readItems : (fuel : Nat) → List Char → Option (List Document × List Char)
  | 0, _ => none
  | fuel + 1, cs => do
    let (d, r) ← readValue fuel cs
    match skip r with
    | ',' :: r =>
      let (ds, r) ← readItems fuel r
      return (d :: ds, r)
    | ']' :: r => return ([d], r)
    | _ => none

def readFields : (fuel : Nat) → List Char → List (String × Document) →
    Option (List (String × Document) × List Char)
  | 0, _, _ => none
  | fuel + 1, cs, fields =>
    match skip cs with
    | '"' :: r => do
      let (name, r) ← readText r
      match skip r with
      | ':' :: r =>
        let (d, r) ← readValue fuel r
        let fields := setField fields (.ofList name) d
        match skip r with
        | ',' :: r => readFields fuel r fields
        | '\x7d' :: r => return (fields, r)
        | _ => none
      | _ => none
    | _ => none

end

def escapeChar (c : Char) : List Char :=
  if c == '"' || c == '\\' then ['\\', c]
  else if c.toNat < 0x20 then '\\' :: 'u' :: hexDigits 4 c.toNat
  else [c]

def writeText (cs : List Char) : List Char := '"' :: cs.flatMap escapeChar ++ ['"']

def writeReal : Double → List Char
  | .infinite s => (if s then "-Infinity" else "Infinity").toList
  | x => x.shown

def writeLeaf : Leaf → List Char
  | .cell .null => "null".toList
  | .cell (.int n) => (toString n).toList
  | .cell (.real x) => writeReal x
  | .cell (.text s) => writeText s.toList
  | .cell (.blob b) => writeText (hexOfBytes b)
  | .irregular .negativeZero => "-0.0".toList
  | .irregular .notNumber => "NaN".toList
  | .flag b => (toString b).toList
  | .moment t => writeText t.iso

mutual

def write : Document → List Char
  | .leaf a => writeLeaf a
  | .list ds => '[' :: writeItems ds ++ [']']
  | .object fs => '\x7b' :: writeFields fs ++ ['\x7d']

def writeItems : List Document → List Char
  | [] => []
  | [d] => write d
  | d :: ds => write d ++ ',' :: writeItems ds

def writeFields : List (String × Document) → List Char
  | [] => []
  | [(n, d)] => writeText n.toList ++ ':' :: write d
  | (n, d) :: fs => writeText n.toList ++ ':' :: write d ++ ',' :: writeFields fs

end

end Json

def ofJson? (cs : List Char) : Option Document := do
  let (d, r) ← Json.readValue (cs.length + 1) cs
  if (Json.skip r).isEmpty then some d else none

def toJson (d : Document) : List Char := Json.write d

end RightsStore.Document
