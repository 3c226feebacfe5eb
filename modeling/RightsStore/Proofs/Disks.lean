import RightsStore.Disk
import RightsStore.Proofs.Statements

namespace RightsStore

namespace Path

def IsPlain (p : Path) : Prop := ∀ name ∈ p, ∀ q : Path, q.step name = q ++ [name]

theorem IsPlain.step {p : Path} (h : p.IsPlain) (name : List Char) : (p.step name).IsPlain := by
  unfold Path.step
  split
  · exact h
  · rename_i hhere
    split
    · exact fun _ hmem => h _ (List.dropLast_subset p hmem)
    · rename_i hback
      intro other hother
      rcases List.mem_append.1 hother with hmem | hmem
      · exact h other hmem
      · intro q
        rw [List.mem_singleton.1 hmem, Path.step, if_neg hhere, if_neg hback]

end Path

namespace Disk

/-- The same directories and files, with all the tables that were there. -/
structure Retains (disk disk' : Disk) : Prop where
  working : disk'.working = disk.working
  directories : disk'.directories = disk.directories
  closed : disk'.closed = disk.closed
  isFile : ∀ p, disk'.isFile p = disk.isFile p
  has : ∀ l t, (disk.database l).has t = true → (disk'.database l).has t = true

namespace Retains

variable {disk disk' : Disk} {l : Location}

theorem isDirectory (h : disk.Retains disk') : disk'.isDirectory = disk.isDirectory := by
  funext p
  rw [Disk.isDirectory, Disk.isDirectory, h.directories]

theorem resolve (h : disk.Retains disk') : disk'.resolve = disk.resolve := by
  have henter : disk'.enter = disk.enter := by
    funext p name
    rw [enter, enter, h.isDirectory, h.isFile]
  funext start names
  rw [Disk.resolve, Disk.resolve, henter]

theorem isThere (h : disk.Retains disk') : disk'.isThere = disk.isThere := by
  have hleads (p : Path) (names : List (List Char)) : disk'.leads p names = disk.leads p names := by
    induction names generalizing p with
    | nil => rw [leads, leads, h.isDirectory, h.isFile]
    | cons name names ih => rw [leads, leads, h.isDirectory, ih]
  funext text
  rw [Disk.isThere, Disk.isThere, hleads, h.working]

theorem openFile (h : disk.Retains disk') : disk'.openFile = disk.openFile := by
  funext create p
  have hroom : disk'.hasRoom p = disk.hasRoom p := by
    rw [hasRoom, hasRoom, h.isDirectory, h.closed]
  rw [Disk.openFile, Disk.openFile, h.isFile, hroom]

theorem openWritten (h : disk.Retains disk') : disk'.openWritten = disk.openWritten := by
  funext create p
  rw [Disk.openWritten, Disk.openWritten, h.openFile]

theorem requireTables (h : disk.Retains disk') {l' : Location}
    (hl : disk.requireTables l = .ok l') : disk'.requireTables l = .ok l' := by
  unfold Disk.requireTables at hl ⊢
  split at hl
  · rename_i hhas
    rw [Bool.and_eq_true] at hhas
    rw [h.has l _ hhas.1, h.has l _ hhas.2]
    exact hl
  · cases hl

theorem openWith (h : disk.Retains disk') {immutable : Bool} {access : Access} {p : Path}
    (hl : disk.openWith immutable access p = .ok l) :
    disk'.openWith immutable access p = .ok l := by
  have hrequire {x : Except FileFault Location} (hx : x >>= disk.requireTables = .ok l) :
      x >>= disk'.requireTables = .ok l := by
    obtain ⟨l', rfl, hl'⟩ := exists_of_bind_eq_ok hx
    exact h.requireTables hl'
  unfold Disk.openWith at hl ⊢
  rw [h.isDirectory, h.openFile, h.openWritten]
  split at hl
  · rename_i hread
    rw [if_pos hread]
    split at hl
    · cases hl
    · rename_i hfile
      rw [if_neg hfile]
      exact hrequire hl
  · rename_i hread
    rw [if_neg hread]
    split at hl
    · rename_i himmutable
      rw [if_pos himmutable]
      exact hrequire hl
    · rename_i himmutable
      rw [if_neg himmutable]
      exact hl

theorem locateUri (h : disk.Retains disk') {u : FileUri} (hl : disk.locateUri u = .ok l) :
    disk'.locateUri u = .ok l := by
  obtain ⟨access, haccess, hl⟩ := exists_of_bind_eq_ok hl
  unfold Disk.locateUri
  rw [haccess, ok_bind, h.working, h.resolve, h.isThere]
  split at hl
  · rename_i hmemory
    rw [if_pos hmemory]
    exact hl
  · rename_i hmemory
    rw [if_neg hmemory]
    split at hl
    · rename_i hname
      rw [if_pos hname]
      exact hl
    · rename_i hname
      rw [if_neg hname]
      split at hl
      · rename_i hsystem
        rw [if_pos hsystem]
        exact hl
      · rename_i hsystem
        rw [if_neg hsystem]
        obtain ⟨p, hp, hl⟩ := exists_of_bind_eq_ok hl
        rw [hp, ok_bind]
        split at hl
        · rename_i hmodel
          rw [if_pos hmodel]
          exact h.openWith hl
        · cases hl

theorem find (h : disk.Retains disk') {source : Source} (hl : disk.find source = .ok l) :
    disk'.find source = .ok l := by
  cases source with
  | memory => exact hl
  | path text =>
    rw [Disk.find] at hl ⊢
    rw [h.working, h.resolve, h.openWritten]
    exact hl
  | name text =>
    rw [Disk.find] at hl ⊢
    rw [h.working, h.resolve, h.openWritten]
    split at hl
    · rename_i huri
      rw [if_pos huri]
      obtain ⟨u, hu, hl⟩ := exists_of_bind_eq_ok hl
      rw [hu, ok_bind]
      exact h.locateUri hl
    · rename_i huri
      rw [if_neg huri]
      exact hl

end Retains

variable {disk : Disk} {source : Source} {l : Location} {p q : Path}

end Disk

end RightsStore
