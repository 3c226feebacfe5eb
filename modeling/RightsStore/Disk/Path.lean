import RightsStore.Text.Split

namespace RightsStore

abbrev Path := List (List Char)

namespace Path

/-- Goes one name further: an empty name and one point stay, two points go back. -/
def step (p : Path) (name : List Char) : Path :=
  if name.isEmpty || name = ['.'] then p
  else if name = ['.', '.'] then p.dropLast
  else p ++ [name]

def names (cs : List Char) : List (List Char) := Text.splitAll '/' cs

def start (directory : Path) (cs : List Char) : Path :=
  if cs.head? = some '/' then [] else directory

def ofText (directory : Path) (cs : List Char) : Path :=
  (names cs).foldl step (start directory cs)

def parent (p : Path) : Path := p.dropLast

def sizeOfName (name : List Char) : Nat := name.foldr (fun c n => c.utf8Size + n) 0

def size (p : Path) : Nat := p.foldr (fun name n => sizeOfName name + 1 + n) 0

@[simp] theorem step_nil (p : Path) : p.step [] = p := rfl

@[simp] theorem ofText_nil (directory : Path) : ofText directory [] = directory := rfl

end Path

end RightsStore
