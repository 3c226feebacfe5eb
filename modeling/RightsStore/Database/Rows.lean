namespace RightsStore

/-- Below a row of the greatest number, new rows get numbers by chance. All that chance will have
chosen is `draws`: of these a new row gets the first that is free. -/
structure Rows (ρ : Type) where
  entries : List (Int × ρ) := []
  draws : List Int := []
  deriving DecidableEq

namespace Rows

variable {ρ : Type}

def toList (t : Rows ρ) : List ρ := t.entries.map (·.2)

def numbers (t : Rows ρ) : List Int := t.entries.map (·.1)

def ofList (rows : List ρ) (draws : List Int) : Rows ρ where
  entries := (List.range' 1 rows.length).map Int.ofNat |>.zip rows
  draws

def greatest : Int := 0x7fffffffffffffff

def freeUpTo (n : Int) : (numbers : List Int) → Int
  | [] => n
  | m :: ms => if m = n then freeUpTo (n - 1) ms else n

def half : Int := 0x4000000000000000

def canDraw (t : Rows ρ) (n : Int) : Bool := 0 < n && n ≤ half && !t.numbers.contains n

/-- The number that is drawn for a row, or the greatest that could be when `draws` have run out. -/
def drawn? (t : Rows ρ) : Option Int :=
  match t.draws.find? t.canDraw with
  | some n => some n
  | none =>
    let free := freeUpTo half (t.numbers.reverse.dropWhile (half < ·))
    if 0 < free then some free else none

/-- The number of a row that is given none. A row of the greatest number stays the last one as long
as there are free numbers. -/
def nextNumber (t : Rows ρ) : Int :=
  match t.numbers.getLast? with
  | none => 1
  | some n => if n = greatest then t.drawn?.getD (n + 1) else n + 1

def insertEntry (n : Int) (r : ρ) : List (Int × ρ) → List (Int × ρ)
  | [] => [(n, r)]
  | e :: es => if n < e.1 then (n, r) :: e :: es else e :: insertEntry n r es

def insertAt (t : Rows ρ) (n : Int) (r : ρ) : Rows ρ :=
  { t with entries := insertEntry n r t.entries }

def add (t : Rows ρ) (r : ρ) : Rows ρ := t.insertAt t.nextNumber r

def map (t : Rows ρ) (f : ρ → ρ) : Rows ρ :=
  { t with entries := t.entries.map fun e => (e.1, f e.2) }

@[simp] theorem toList_empty (draws : List Int) : (⟨[], draws⟩ : Rows ρ).toList = [] := rfl

@[simp] theorem toList_map (t : Rows ρ) (f : ρ → ρ) : (t.map f).toList = t.toList.map f := by
  simp [toList, map, Function.comp_def]

@[simp] theorem numbers_map (t : Rows ρ) (f : ρ → ρ) : (t.map f).numbers = t.numbers := by
  simp [numbers, map, Function.comp_def]

theorem insertEntry_of_forall_le {n : Int} {r : ρ} {es : List (Int × ρ)}
    (h : ∀ e ∈ es, e.1 ≤ n) : insertEntry n r es = es ++ [(n, r)] := by
  induction es with
  | nil => rfl
  | cons e es ih =>
    have he : ¬n < e.1 := Int.not_lt.2 (h e List.mem_cons_self)
    simp [insertEntry, he, ih fun x hx => h x (List.mem_cons_of_mem _ hx)]

end Rows

end RightsStore
