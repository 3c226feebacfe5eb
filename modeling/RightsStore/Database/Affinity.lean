import RightsStore.Cell
import RightsStore.Database.RealText

namespace RightsStore

open Text

inductive Affinity
  | text
  | blob
  | numeric
  deriving DecidableEq, Repr

namespace Affinity

def hasInfix (p : List Char) : List Char → Bool
  | [] => p.isEmpty
  | c :: r => p.isPrefixOf (c :: r) || hasInfix p r

/-- A declared type with `INT` in it is numeric, else one with `CHAR`, `CLOB` or `TEXT` is text. -/
def ofDeclared (declared : String) : Affinity :=
  let has := fun (p : String) => hasInfix p.toList (declared.toList.map Char.toUpper)
  if has "INT" then .numeric
  else if has "CHAR" || has "CLOB" || has "TEXT" then .text
  else if has "BLOB" || declared.isEmpty then .blob
  else .numeric

/-- A whole double strictly between the least and the greatest integer is stored as an integer. -/
def settle (x : Double) : Cell :=
  match x with
  | .finite q =>
    if q.den = 1 && -0x8000000000000000 < q.num && q.num < 0x7fffffffffffffff then .int q.num
    else .real x
  | .infinite _ => .real x

def number? (cs : List Char) : Option Cell :=
  (Numeral.ofText? cs).map fun n =>
    if n.whole && fitsWord n.toInt then .int n.toInt else settle n.toDouble

def convert : Affinity → Cell → Cell
  | .text, .int n => .text (toString n)
  | .text, .real x => .text (.ofList (RealText.ofDouble x))
  | .numeric, .text s => (number? s.toList).getD (.text s)
  | .numeric, .real x => settle x
  | _, c => c

@[simp] theorem convert_null (a : Affinity) : a.convert .null = .null := by
  cases a <;> rfl

@[simp] theorem convert_blob (a : Affinity) (b : Bytes) : a.convert (.blob b) = .blob b := by
  cases a <;> rfl

@[simp] theorem text_convert_text (s : String) : text.convert (.text s) = .text s := rfl

@[simp] theorem numeric_convert_int (n : Int) : numeric.convert (.int n) = .int n := rfl

end Affinity

namespace Cell

def rank : Cell → Nat
  | .null => 0
  | .int _ => 1
  | .real _ => 1
  | .text _ => 2
  | .blob _ => 3

def number? : Cell → Option Double
  | .int n => some (.finite n)
  | .real x => some x
  | _ => none

end Cell

def Double.lt : Double → Double → Bool
  | .finite p, .finite q => p < q
  | .infinite s, .infinite t => s && !t
  | .infinite s, .finite _ => s
  | .finite _, .infinite t => !t

def Cell.lt : Cell → Cell → Bool
  | .text s, .text t => s < t
  | .blob s, .blob t => s < t
  | a, b =>
    match a.number?, b.number? with
    | some x, some y => x.lt y
    | _, _ => a.rank < b.rank

end RightsStore
