import RightsStore.Text.Blank
import RightsStore.Text.Digit

namespace RightsStore.Text

inductive IntegerFault
  | malformed
  | tooLong (digits : Nat)
  deriving DecidableEq, Repr

def maxDigits : Nat := 4300

def IntegerFault.message (shown : List Char) : IntegerFault → String
  | .malformed => "invalid literal for int() with base 10: " ++ .ofList (shown.take 200)
  | .tooLong n => s!"Exceeds the limit ({maxDigits} digits) for integer string conversion: " ++
    s!"value has {n} digits; use sys.set_int_max_str_digits() to increase the limit"

def isNumberBlank (c : Char) : Bool :=
  isBlank c && !(0x1c ≤ c.toNat && c.toNat ≤ 0x1f)

def groupedDigits? : List Char → Option (List Nat)
  | [] => none
  | [c] => (digitValue? c).map ([·])
  | c :: '_' :: r => do return (← digitValue? c) :: (← groupedDigits? r)
  | c :: r => do return (← digitValue? c) :: (← groupedDigits? r)

def splitSign : List Char → Bool × List Char
  | '-' :: r => (true, r)
  | '+' :: r => (false, r)
  | r => (false, r)

def applySign (negative : Bool) (n : Nat) : Int := if negative then -(n : Int) else n

def readInteger (cs : List Char) : Except IntegerFault Int :=
  let (negative, body) := splitSign (cs.dropWhile isNumberBlank)
  let inRow := fun c => (digitValue? c).isSome || c == '_'
  match groupedDigits? (body.takeWhile inRow) with
  | none => .error .malformed
  | some ds =>
    if maxDigits < ds.length then .error (.tooLong ds.length)
    else if (body.dropWhile inRow).all isNumberBlank then .ok (applySign negative (ofDigits ds))
    else .error .malformed

end RightsStore.Text
