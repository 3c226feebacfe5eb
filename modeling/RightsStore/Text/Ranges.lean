namespace RightsStore.Text

abbrev Ranges := List (Nat × Nat)

def Ranges.mem (rs : Ranges) (c : Char) : Bool :=
  rs.any fun r => r.1 ≤ c.toNat && c.toNat ≤ r.2

end RightsStore.Text
