import RightsStore.Proofs.Statements

namespace RightsStore

def ContentRow.cells (r : ContentRow) : List Cell :=
  [r.id, r.key, r.location, r.length, r.sha256, r.mediaType]

def LicenseRow.cells (r : LicenseRow) : List Cell :=
  [r.id, r.userId, r.provider, r.issued, r.updated, r.print, r.copy, r.start, r.stop, r.contentId,
    r.status]

namespace Column

def convertAll (columns : List Column) (cells : List Cell) : List Cell :=
  List.zipWith (fun c => (Affinity.ofDeclared c.declared).convert) columns cells

def requireAll (t : Table) : (columns : List Column) → (cells : List Cell) → Executed Unit
  | c :: columns, cell :: cells => do
    if c.required then require t c.name cell
    requireAll t columns cells
  | _, _ => .ok ()

end Column

theorem bind_ok_unit (x : Executed Unit) : (x >>= fun _ => .ok ()) = x := by
  cases x <;> rfl

/-- The rows of a dialect's tables are converted and checked as it declares their columns. -/
structure Dialect.Declares (d : Dialect) : Prop where
  contentValues : ∀ r : ContentRow,
    (r.convert (.created d)).cells = Column.convertAll d.contentColumns r.cells
  licenseValues : ∀ r : LicenseRow, r.convert.cells = Column.convertAll d.licenseColumns r.cells
  contentNulls : ∀ r : ContentRow,
    r.checkNulls = Column.requireAll .content d.contentColumns r.cells
  licenseNulls : ∀ r : LicenseRow,
    r.checkNulls = Column.requireAll .license d.licenseColumns r.cells

theorem Dialect.declares (d : Dialect) : d.Declares := by
  refine ⟨?_, ?_, ?_, ?_⟩
  · intro r
    cases d <;> rfl
  · intro r
    cases d <;> rfl
  · intro r
    rw [ContentRow.checkNulls, ← bind_ok_unit (require .content "type" _)]
    cases d <;> rfl
  · intro r
    rw [LicenseRow.checkNulls, ← bind_ok_unit (require .license "content_fk" _)]
    cases d <;> rfl

end RightsStore
