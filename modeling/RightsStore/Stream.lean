import RightsStore.Program

/-!
Streams: results read one by one. A stream holds the rows that its query had when it was opened,
each already read as an item or as the failure to read it, and a connection until it is closed.
-/

namespace RightsStore

inductive Item
  | content (c : Content)
  | report (l : License)
  | number (n : Int)
  deriving DecidableEq

def Item.document : Item → Document
  | .content c => c.object
  | .report l => l.document
  | .number n => .int n

inductive Cursor
  | reading (rest : List (Except Failure Item))
  | closed

namespace Cursor

def ofRows (read : ρ → Except Failure Item) (rows : List ρ) : Cursor := .reading (rows.map read)

def isClosed : Cursor → Bool
  | .closed => true
  | .reading _ => false

def length : Cursor → Nat
  | .closed => 0
  | .reading rest => rest.length

def fetch : Cursor → Option (Except Failure Item) × Cursor
  | .reading (row :: rest) => (some row, .reading rest)
  | c => (none, c)

end Cursor

structure Stream where
  connection : Nat
  cursor : Cursor

/-- Why a stream gives no item: it has come to its end, or something failed. -/
inductive Halt
  | stop
  | failed (f : Failure)

namespace Stream

structure Use where
  stream : Stream
  world : World

abbrev Action := EStateM Halt Use

def setCursor (c : Cursor) (u : Use) : Use := { u with stream := { u.stream with cursor := c } }

def onWorld (f : World → World) (u : Use) : Use := { u with world := f u.world }

def opened (rows : Database → Except Failure (List ρ)) (read : ρ → Except Failure Item) :
    Program Stream := do
  let n ← Program.connect
  let rows ←
    try Program.inquire rows
    catch f =>
      Program.giveBack n
      throw f
  return ⟨n, .ofRows read rows⟩

def close : Action Unit := do
  let t := (← get).stream
  unless t.cursor.isClosed do
    modify (setCursor .closed)
    modify (onWorld (·.giveBack t.connection))
    modify (onWorld (·.say .streamClosed))

def fetch : Action (Option (Except Failure Item)) :=
  modifyGet fun u => (u.stream.cursor.fetch.1, setCursor u.stream.cursor.fetch.2 u)

def fetchItem : Action Item := do
  match ← fetch with
  | some (.ok a) => pure a
  | some (.error f) => throw (.failed f)
  | none =>
    close
    throw .stop

/-- The end and a failure close the stream. -/
def next : Action Item := do
  if (← get).stream.cursor.isClosed then throw .stop
  else
    try fetchItem
    catch h =>
      close
      throw h

def next? : Action (Option Item) :=
  try some <$> next
  catch
    | .stop => pure none
    | h => throw h

def take : (n : Nat) → Action (List (Option Item))
  | 0 => return []
  | n + 1 => return (← next?) :: (← take n)

def takeAll : (n : Nat) → Action (List Item)
  | 0 => return []
  | n + 1 => do
    match ← next? with
    | none => return []
    | some a => return a :: (← takeAll n)

def drain : Action (List Item) := do takeAll ((← get).stream.cursor.length + 1)

def takeThen (n : Nat) : (abort : Option String) → Action (List (Option Item))
  | none => take n
  | some message => do
    let _ ← take n
    throw (.failed (.aborted message))

/-- A block that uses a stream closes it, whatever happens. -/
def within (n : Nat) (abort : Option String) : Action (List (Option Item)) :=
  try takeThen n abort finally close

end Stream

end RightsStore
