import RightsStore.Database
import RightsStore.Event
import RightsStore.Pool

/-!
Programs that use a database over connections, and what they log. An error ends a program but undoes
nothing: whatever was changed by then stays, unless the program itself takes it back.
-/

namespace RightsStore

/-- `journal` has the transactions that run, each under its connection and with the database that it
began with. -/
structure World where
  database : Database
  pool : Pool := {}
  journal : List (Nat × Database) := []
  log : List Event := []

abbrev Program := EStateM Failure World

abbrev Command := EStateM Failure Database

instance : MonadLift (Except Failure) (EStateM Failure σ) where
  monadLift
    | .ok a => pure a
    | .error f => throw f

namespace World

def connect (w : World) : World := { w with pool := w.pool.connect }

def begin (w : World) (n : Nat) : World := { w with journal := (n, w.database) :: w.journal }

def commit (w : World) (n : Nat) : World :=
  { w with journal := w.journal.eraseP (·.1 = n) }

def rollback (w : World) (n : Nat) : World :=
  match w.journal.lookup n with
  | none => w
  | some before => { w.commit n with database := before }

def giveBack (w : World) (n : Nat) : World :=
  { w.rollback n with pool := w.pool.giveBack n }

def say (w : World) (e : Event) : World := { w with log := w.log ++ [e] }

end World

namespace Program

def connect : Program Nat := modifyGet fun w => (w.pool.free, w.connect)

def giveBack (n : Nat) : Program Unit := modify (·.giveBack n)

def say (e : Event) : Program Unit := modify (·.say e)

/-- A command may fail halfway. -/
def execute (x : Command α) : Program α := fun w =>
  match x w.database with
  | .ok a db => .ok a { w with database := db }
  | .error f db => .error f { w with database := db }

def inquire (x : Database → Except Failure α) : Program α := do x (← get).database

/-- Uses a connection, which is given back in any case. -/
def connected (x : Nat → Program α) : Program α := do
  let n ← connect
  try x n finally giveBack n

/-- A transaction on a connection of its own. An error takes back what has been done in it. -/
def transaction (x : Program α) : Program α :=
  connected fun n => do
    modify (·.begin n)
    let a ←
      try x
      catch f =>
        modify (·.rollback n)
        throw f
    modify (·.commit n)
    return a

end Program

end RightsStore
