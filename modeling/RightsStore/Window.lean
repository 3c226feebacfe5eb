import RightsStore.Binding

namespace RightsStore

structure Page where
  limit : Datum
  offset : Datum
  deriving DecidableEq

structure Window where
  limit : Int
  offset : Int
  deriving DecidableEq, Repr

def Page.of (size number : Datum) : Except Failure Page :=
  match number.times size with
  | .ok offset => .ok ⟨size, offset⟩
  | .error f => .error (.noOffset f)

namespace Window

def whole (c : Cell) : Except Failure Int :=
  match Affinity.numeric.convert c with
  | .int n => .ok n
  | _ => .error (.refused .badNumber)

/-- With a limit of 0, nothing is skipped. -/
def ofCells (limit offset : Cell) : Except Failure Window := do
  let limit ← whole limit
  if limit = 0 then return ⟨0, 0⟩ else return ⟨limit, ← whole offset⟩

/-- A negative limit is no limit, a negative offset is 0. -/
def apply (w : Window) (xs : List α) : List α :=
  let rest := xs.drop w.offset.toNat
  if w.limit < 0 then rest else rest.take w.limit.toNat

@[simp] theorem whole_int (n : Int) : whole (.int n) = .ok n := rfl

@[simp] theorem apply_nil (w : Window) : w.apply ([] : List α) = [] := by
  simp [apply]

theorem apply_sublist (w : Window) (xs : List α) : (w.apply xs).Sublist xs := by
  simp only [apply]
  split
  · exact List.drop_sublist ..
  · exact (List.take_sublist ..).trans (List.drop_sublist ..)

@[simp] theorem map_apply (w : Window) (f : α → β) (xs : List α) :
    (w.apply xs).map f = w.apply (xs.map f) := by
  simp only [apply]
  split <;> simp [List.map_take, List.map_drop]

end Window

namespace Page

def bind (p : Page) (k : Nat) : Except Failure (Cell × Cell) := do
  return (← p.limit.bind k, ← p.offset.bind (k + 1))

@[simp] theorem of_int (size number : Int) :
    Page.of (.int size) (.int number) = .ok ⟨.int size, .int (number * size)⟩ := rfl

theorem bind_int {limit offset : Int} (hl : fitsWord limit) (ho : fitsWord offset) (k : Nat) :
    (Page.mk (.int limit) (.int offset)).bind k = .ok (.int limit, .int offset) := by
  simp only [bind, Datum.bind, hl, ho, if_true]
  rfl

end Page

end RightsStore
