namespace RightsStore.Text

def splitAll (c : Char) : List Char → List (List Char)
  | [] => [[]]
  | d :: r =>
    if d = c then [] :: splitAll c r
    else
      match splitAll c r with
      | [] => [[d]]
      | part :: parts => (d :: part) :: parts

@[simp] theorem splitAll_nil (c : Char) : splitAll c [] = [[]] := rfl

@[simp] theorem splitAll_cons_self (c : Char) (r : List Char) :
    splitAll c (c :: r) = [] :: splitAll c r := by
  simp [splitAll]

end RightsStore.Text
