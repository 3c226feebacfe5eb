import RightsStore.Bootstrap
import RightsStore.Proofs.Disks
import RightsStore.Proofs.Reopenings

namespace RightsStore

namespace Database

variable {db : Database} {d : Dialect}

theorem Widens.refl (db : Database) : db.Widens db :=
  ⟨fun t ht => ⟨t, ht, .inl rfl⟩, fun _ ht => ht, rfl⟩

end Database

namespace Bootstrap

def runs (settings : Settings) (args : List (List Char)) : Nat → Disk → List Outcome × Disk
  | 0, disk => ([], disk)
  | n + 1, disk =>
    let r := run settings args disk
    let (outcomes, disk) := runs settings args n r.disk
    (r.outcome :: outcomes, disk)

variable {settings : Settings} {args : List (List Char)} {o : Options} {e : Engine}

def givenUrl (settings : Settings) (o : Options) : List Char :=
  let given := o.databaseUrl.getD settings.databaseUrl
  (if given = "" then settings.databaseUrl else given).toList

def dialect (settings : Settings) (o : Options) : Dialect := .ofSetting (givenUrl settings o)

section Run

variable {disk : Disk} {l : Location}

end Run

end Bootstrap

end RightsStore
