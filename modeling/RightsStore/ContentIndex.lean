import RightsStore.Binding
import RightsStore.Database.Statements
import RightsStore.Program

namespace RightsStore

def ContentRow.read (r : ContentRow) : Except Failure Content := do
  let key ← r.key.readKey
  return {
    id := r.id, key, location := r.location, length := r.length, sha256 := r.sha256
    mediaType := r.mediaType }

namespace ContentIndex

open Failure (ofExecuted)

def table (db : Database) (missing : Refusal) : Except Failure ContentTable :=
  match db.content with
  | none => .error (.refused (.missingTable "content"))
  | some t => if t.layout.hasType then .ok t else .error (.refused missing)

def noType : Refusal := .missingColumn "type"

def bindRest (c : Content) (key : Cell) (position : Nat) : Except Failure ContentRow := do
  let location ← c.location.bind position
  let length ← c.length.bind (position + 1)
  let sha256 ← c.sha256.bind (position + 2)
  let mediaType ← c.storedType.bind (position + 3)
  return { key, location, length, sha256, mediaType }

def bindInsertion (c : Content) (key : Cell) : Except Failure ContentRow := do
  let id ← c.id.bind 1
  let r ← bindRest c key 3
  return { r with id }

def bindUpdate (c : Content) (key : Cell) : Except Failure ContentRow := do
  let r ← bindRest c key 2
  let id ← c.id.bind 6
  return { r with id }

def find (db : Database) (id : Datum) : Except Failure (Option ContentRow) := do
  let t ← table db noType
  return t.find? (← id.bind 1)

def readFound : Option ContentRow → Except Failure Content
  | none => .error (.notFound .content)
  | some r => r.read

def list (db : Database) : Except Failure (List ContentRow) := do
  return (← table db noType).rows

def insertion (c : Content) : Command Unit := do
  let key ← c.key.bindKey
  let t ← table (← MonadState.get) (.unknownColumn "content" "type")
  let t ← ofExecuted (t.insert (← bindInsertion c key))
  modify fun db => { db with content := some t }

def replacement (c : Content) : Command Unit := do
  let key ← c.key.bindKey
  let t ← table (← MonadState.get) noType
  let t ← ofExecuted (t.update (← bindUpdate c key))
  modify fun db => { db with content := some t }

end ContentIndex

end RightsStore
