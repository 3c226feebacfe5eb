import RightsStore.Datum

namespace RightsStore

inductive ProductFault
  | noProduct (left right : String)
  | noCount (kind : String)
  | countRange
  | textRange
  | realRange
  | memory
  deriving DecidableEq, Repr

def ProductFault.message : ProductFault → String
  | .noProduct left right => s!"unsupported operand type(s) for *: '{left}' and '{right}'"
  | .noCount kind => s!"can't multiply sequence by non-int of type '{kind}'"
  | .countRange => "cannot fit 'int' into an index-sized integer"
  | .textRange => "repeated string is too long"
  | .realRange => "int too large to convert to float"
  | .memory => ""

def memoryLimit : Int := 0x10000000000

inductive Factor
  | notNumber
  | signed (negative : Bool) (size : Double)
  deriving DecidableEq

namespace Factor

def ofDouble : Double → Factor
  | .finite q => .signed (q < 0) (.finite q.abs)
  | .infinite s => .signed s (.infinite false)

def ofIrregular : Irregular → Factor
  | .negativeZero => .signed true (.finite 0)
  | .notNumber => .notNumber

def ofInt (n : Int) : Except ProductFault Factor :=
  match Double.nearest n.natAbs 1 with
  | .finite q => .ok (.signed (n < 0) (.finite q))
  | .infinite _ => .error .realRange

/-- The product of two sizes. Nothing times infinity is not a number. -/
def timesSize? : Double → Double → Option Double
  | .finite p, .finite q => some (.nearest (p * q).num.natAbs (p * q).den)
  | .finite p, .infinite s => if p = 0 then none else some (.infinite s)
  | .infinite s, .finite q => if q = 0 then none else some (.infinite s)
  | .infinite s, .infinite _ => some (.infinite s)

def times : Factor → Factor → Factor
  | .signed s x, .signed t y =>
    match timesSize? x y with
    | some z => .signed (s != t) z
    | none => .notNumber
  | _, _ => .notNumber

def datum : Factor → Datum
  | .notNumber => .irregular .notNumber
  | .signed true (.finite q) => if q = 0 then .irregular .negativeZero else .real (.finite (-q))
  | .signed s x => .real (if s then x.negate else x)

end Factor

namespace Datum

def whole? : Datum → Option Int
  | .int n => some n
  | .flag b => some (if b then 1 else 0)
  | _ => none

def factor? : Datum → Option (Except ProductFault Factor)
  | .real x => some (.ok (.ofDouble x))
  | .irregular x => some (.ok (.ofIrregular x))
  | d => d.whole?.map Factor.ofInt

def count (d : Datum) : Except ProductFault Nat :=
  match d.whole? with
  | some n => if fitsWord n then .ok n.toNat else .error .countRange
  | none => .error (.noCount d.kind)

def repeatText (s : String) (n : Nat) : Except ProductFault Datum :=
  if s.isEmpty then .ok (.text s)
  else if 0x8000000000000000 ≤ s.length * n then .error .textRange
  else if memoryLimit ≤ s.length * n then .error .memory
  else .ok (.text (.ofList (List.replicate n s.toList).flatten))

def repeatList (ds : List Document) (n : Nat) : Except ProductFault Datum :=
  if ds.isEmpty then .ok (.composite (.list ds))
  else if memoryLimit ≤ ds.length * n then .error .memory
  else .ok (.composite (.list (List.replicate n ds).flatten))

def repeat? : Datum → Option (Nat → Except ProductFault Datum)
  | .text s => some (repeatText s)
  | .composite (.list ds) => some (repeatList ds)
  | _ => none

def timesReal (a b : Except ProductFault Factor) : Except ProductFault Datum := do
  return ((← a).times (← b)).datum

/-- Numbers are looked for first, then a value on the left that can be repeated, then one on the
right. -/
def times (a b : Datum) : Except ProductFault Datum :=
  match a.whole?, b.whole?, a.factor?, b.factor?, a.repeat?, b.repeat? with
  | some m, some n, _, _, _, _ => .ok (.int (m * n))
  | _, _, some f, some g, _, _ => timesReal f g
  | _, _, _, _, some f, _ => b.count >>= f
  | _, _, _, _, none, some g => a.count >>= g
  | _, _, _, _, none, none => .error (.noProduct a.kind b.kind)

@[simp] theorem times_int (m n : Int) : (int m).times (int n) = .ok (.int (m * n)) := rfl

@[simp] theorem times_null_int (n : Int) :
    null.times (int n) = .error (.noProduct "NoneType" "int") := rfl

end Datum

end RightsStore
