import RightsStore.Double
import RightsStore.Text.Hex

namespace RightsStore

open Text

inductive Cell
  | null
  | int (n : Int)
  | real (x : Double)
  | text (s : String)
  | blob (b : Bytes)
  deriving DecidableEq

def fitsWord (n : Int) : Bool := -0x8000000000000000 ≤ n && n < 0x8000000000000000

/-- Doubles that stand for no number of their own: zero with a sign, and what is not a number. -/
inductive Irregular
  | negativeZero
  | notNumber
  deriving DecidableEq, Repr

end RightsStore
