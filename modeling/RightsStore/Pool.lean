namespace RightsStore

/-- The numbers of the connections in use, the latest one first. To give one back that is not in
use is counted as a stray. -/
structure Pool where
  inUse : List Nat := []
  strays : Nat := 0
  deriving DecidableEq, Repr

namespace Pool

def free (p : Pool) : Nat := p.inUse.foldr (· + ·) 0 + 1

def connect (p : Pool) : Pool := { p with inUse := p.free :: p.inUse }

def giveBack (p : Pool) (n : Nat) : Pool :=
  if n ∈ p.inUse then { p with inUse := p.inUse.erase n } else { p with strays := p.strays + 1 }

@[simp] theorem giveBack_connect (p : Pool) : p.connect.giveBack p.free = p := by
  simp [giveBack, connect]

end Pool

end RightsStore
