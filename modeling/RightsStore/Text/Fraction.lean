import RightsStore.Text.Integer

namespace RightsStore.Text

def isGrouped (cs : List Char) : Bool := (groupedDigits? cs).isSome

def isFractionRow (c : Char) : Bool := (digitValue? c).isSome || c == '_'

def isExponent : List Char → Bool
  | [] => true
  | e :: r => (e == 'e' || e == 'E') && isGrouped (splitSign r).2

def fractionWords : List String := ["inf", "infinity", "nan"]

def isFraction (cs : List Char) : Bool :=
  let cs := dropTrailing isNumberBlank (cs.dropWhile isNumberBlank)
  let body := (splitSign cs).2
  let whole := body.takeWhile isFractionRow
  let rest := body.dropWhile isFractionRow
  fractionWords.contains (.ofList (body.map Char.toLower)) ||
    match rest with
    | '.' :: r =>
      let part := r.takeWhile isFractionRow
      (isGrouped whole || whole.isEmpty) && (isGrouped part || part.isEmpty) &&
        !(whole.isEmpty && part.isEmpty) && isExponent (r.dropWhile isFractionRow)
    | _ => isGrouped whole && isExponent rest

end RightsStore.Text
