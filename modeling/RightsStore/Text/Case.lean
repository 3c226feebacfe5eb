import RightsStore.Text.CaseTable

namespace RightsStore.Text

def shifted (ss : List Shift) (c : Char) : Char :=
  ((ss.findSome? (·.moved? c.toNat)).map Char.ofNat).getD c

def upperChar (c : Char) : List Char :=
  match upperExpansions.lookup c.toNat with
  | some ns => ns.map Char.ofNat
  | none => [shifted upperShifts c]

def upper (cs : List Char) : List Char := cs.flatMap upperChar

def meetsCased (cs : List Char) : Bool :=
  match cs.dropWhile caseIgnorable.mem with
  | [] => false
  | c :: _ => cased.mem c

def lowerChar (before : List Char) (c : Char) (after : List Char) : List Char :=
  if c == 'Σ' then [if meetsCased before && !meetsCased after then 'ς' else 'σ']
  else if c == 'İ' then ['i', '\u0307']
  else [shifted lowerShifts c]

/-- The second argument holds what was read already, last character first. -/
def lowerAfter : List Char → List Char → List Char
  | [], _ => []
  | c :: r, before => lowerChar before c r ++ lowerAfter r (c :: before)

def lower (cs : List Char) : List Char := lowerAfter cs []

end RightsStore.Text
