import RightsStore.Opening
import RightsStore.Preparation
import RightsStore.Stores

/-!
Sessions: a database with its pool of connections, the stores opened on it and the streams that are
being read. A step takes a session to the next one, with an answer or a failure and with what it
logged.
-/

namespace RightsStore

/-- Stores are opened one by one, with references followed or not, or by a container that opens
each when it is first asked for and the index before the licenses. -/
inductive Wiring
  | separate (enforce : Bool)
  | container (index licenses : Bool)
  deriving DecidableEq, Repr

structure StoreCount where
  index : Nat := 0
  licenses : Nat := 0
  deriving DecidableEq, Repr

namespace StoreCount

def of (c : StoreCount) : Table → Nat
  | .content => c.index
  | .license => c.licenses

def add (c : StoreCount) : Table → StoreCount
  | .content => { c with index := c.index + 1 }
  | .license => { c with licenses := c.licenses + 1 }

end StoreCount

/-- `index` and `licenses` say which stores are at hand. -/
structure Session where
  dialect : Dialect
  wiring : Wiring
  counts : StoreCount := {}
  database : Database := {}
  pool : Pool := {}
  index : Bool := false
  licenses : Bool := false
  streams : List (String × Stream) := []

inductive Fixture
  | legacyContent (rows : List ContentRow)
  | other (index : Table)

inductive Query
  | contents
  | licenses (contentId size number : Datum)
  | allLicenses (size number : Datum)
  | numbers (values : List Int) (failOn : Datum)
  | missing

/-- A step whose record is described badly fails by that, unless its store is not at hand. -/
inductive Step
  | prepare (f : Fixture)
  | insertRaw (table : String) (values : List (String × Datum))
  | tables
  | columns (table : String)
  | openStore (t : Table)
  | dialect
  | connections
  | getContent (id : Datum)
  | addContent (c : Content)
  | updateContent (c : Content)
  | listContents
  | getLicense (id : Datum)
  | addLicense (l : License)
  | updateLicense (l : License) (clock : Moment)
  | updateRights (l : License) (clock : Moment)
  | setStatus (id status : Datum)
  | listLicenses (contentId size number : Datum)
  | listAllLicenses (size number : Datum)
  | dumpContents
  | dumpLicenses (size number : Datum)
  | openStream (name : String) (q : Query)
  | next (name : String)
  | drain (name : String)
  | close (name : String)
  | scope (name : String) (take : Nat) (abort : Option String)
  | state (name : String)
  | undescribed (store : Option Table) (f : DescriptionFault)

/-- A container hands out a store, the how manyeth of its kind that it has made. -/
inductive Answer
  | done
  | opened (t : Table) (n : Nat)
  | names (names : List String)
  | columns (columns : List Column)
  | dialect (d : Dialect)
  | connections (n : Nat)
  | license (l : License)
  | item (i : Item)
  | ended
  | items (items : List Item)
  | taken (items : List (Option Item))
  | document (d : Document)
  | state (closed : Bool) (connections : Nat)
  deriving DecidableEq

structure Reply where
  answer : Except Failure Answer
  log : List Event := []

def replaceFirst (name : String) (a : α) : List (String × α) → List (String × α)
  | [] => []
  | e :: es => if e.1 = name then (name, a) :: es else e :: replaceFirst name a es

theorem lookup_replaceFirst_self (name : String) (a : α) (es : List (String × α)) :
    (replaceFirst name a es).lookup name = (es.lookup name).map fun _ => a := by
  induction es with
  | nil => rfl
  | cons e es ih =>
    obtain ⟨key, b⟩ := e
    by_cases h : key = name
    · subst h
      simp [replaceFirst]
    · have h' : (name == key) = false := by simpa using fun he => h he.symm
      simp [replaceFirst, List.lookup_cons, h, h', ih]

theorem lookup_replaceFirst_of_ne {name other : String} (h : other ≠ name) (a : α)
    (es : List (String × α)) : (replaceFirst name a es).lookup other = es.lookup other := by
  induction es with
  | nil => rfl
  | cons e es ih =>
    obtain ⟨key, b⟩ := e
    by_cases he : key = name
    · subst he
      have h' : (other == key) = false := by simpa using h
      simp [replaceFirst, List.lookup_cons, h']
    · simp only [replaceFirst, if_neg he, List.lookup_cons, ih]

namespace Session

def start (d : Dialect) (w : Wiring) (draws : Draws := {}) : Session :=
  { dialect := d, wiring := w, database := { draws } }

def enforce (s : Session) : Bool :=
  match s.wiring with
  | .separate b => b
  | .container .. => true

def connections (s : Session) : Nat := s.pool.inUse.length

def stream? (s : Session) (name : String) : Option Stream := s.streams.lookup name

/-- Adds a stream. An older one of its name is out of reach, but keeps its connection. -/
def addStream (s : Session) (name : String) (t : Stream) : Session :=
  { s with streams := (name, t) :: s.streams }

def setStream (s : Session) (name : String) (t : Stream) : Session :=
  { s with streams := replaceFirst name t s.streams }

def isOpen (s : Session) : Table → Bool
  | .content => s.index
  | .license => s.licenses

def withDatabase (s : Session) (db : Database) : Session := { s with database := db }

def world (s : Session) : World where
  database := s.database
  pool := s.pool

def within (s : Session) (w : World) : Session := { s with database := w.database, pool := w.pool }

def perform (s : Session) (x : Program Answer) : Reply × Session :=
  match x s.world with
  | .ok a w => (⟨.ok a, w.log⟩, s.within w)
  | .error f w => (⟨.error f, w.log⟩, s.within w)

def onStore (s : Session) (t : Table) (run : Reply × Session) : Reply × Session :=
  if s.isOpen t then run else (⟨.error (.notOpen t), []⟩, s)

def reading (s : Session) (x : Except Failure Answer) : Reply × Session := (⟨x, []⟩, s)

def ofExecuted (s : Session) (x : Executed Database) : Reply × Session :=
  match x with
  | .ok db => (⟨.ok .done, []⟩, s.withDatabase db)
  | .error r => (⟨.error (.refused r), []⟩, s)

def numberItem (failOn : Datum) (n : Int) : Except Failure Item :=
  if failOn.same (.int n) then .error (.badRow n) else .ok (.number n)

def answerItems (items : List Item) : Except Failure Answer := .ok (.items items)

def answerDump (s : Schema) (items : List Item) : Except Failure Answer :=
  match s.dumpMany (items.map Item.document) with
  | .ok d => .ok (.document d)
  | .error u => .error (.undumpable u)

def draining (s : Session) (x : Program Stream) (answer : List Item → Except Failure Answer) :
    Reply × Session :=
  s.perform do answer (← Program.readAll x)

def startStream (s : Session) (name : String) (x : Program Stream) : Reply × Session :=
  match x s.world with
  | .ok t w => (⟨.ok .done, w.log⟩, (s.within w).addStream name t)
  | .error f w => (⟨.error f, w.log⟩, s.within w)

def openStream (s : Session) (name : String) (rows : Except Failure (List ρ))
    (read : ρ → Except Failure Item) : Reply × Session :=
  s.startStream name (Stream.opened (fun _ => rows) read)

def answerHalt : Halt → Except Failure Answer
  | .stop => .ok .ended
  | .failed f => .error f

def onStream (s : Session) (name : String) (x : Stream.Action Answer) : Reply × Session :=
  match s.stream? name with
  | none => (⟨.error (.unknownName name), []⟩, s)
  | some t =>
    match x ⟨t, s.world⟩ with
    | .ok a u => (⟨.ok a, u.world.log⟩, (s.within u.world).setStream name u.stream)
    | .error h u => (⟨answerHalt h, u.world.log⟩, (s.within u.world).setStream name u.stream)

def openTable (s : Session) (t : Table) : Reply × Session :=
  s.perform do
    Program.openTable s.dialect t
    return .done

def handedOut (s : Session) (t : Table) : Except Failure Answer := .ok (.opened t (s.counts.of t))

def keep (s : Session) (t : Table) (w : Wiring) : Session :=
  { s with wiring := w, counts := s.counts.add t }

def containerIndex (s : Session) (licenses : Bool) : Reply × Session :=
  let (reply, s) := s.openTable .content
  match reply.answer with
  | .ok _ =>
    let s := s.keep .content (.container true licenses)
    (⟨s.handedOut .content, reply.log⟩, s)
  | .error f => (⟨.error f, reply.log⟩, s)

def containerLicenses (s : Session) (index : Bool) : Reply × Session :=
  let (first, s) := if index then (⟨s.handedOut .content, []⟩, s) else s.containerIndex false
  match first.answer with
  | .error f => (⟨.error f, first.log⟩, s)
  | .ok _ =>
    let (second, s) := s.openTable .license
    match second.answer with
    | .error f => (⟨.error f, first.log ++ second.log⟩, s)
    | .ok _ =>
      let s := s.keep .license (.container true true)
      (⟨s.handedOut .license, first.log ++ second.log⟩, s)

def hand (t : Table) (x : Reply × Session) : Reply × Session :=
  match x.1.answer with
  | .error _ => x
  | .ok _ =>
    match t, x.2.wiring with
    | .content, _ => (x.1, { x.2 with index := true })
    | .license, .separate _ => (x.1, { x.2 with licenses := true })
    | .license, .container .. => (x.1, { x.2 with index := true, licenses := true })

def openStore (s : Session) (t : Table) : Reply × Session :=
  hand t <|
    match t, s.wiring with
    | t, .separate _ => s.openTable t
    | .content, .container true _ => (⟨s.handedOut .content, []⟩, s)
    | .content, .container false licenses => s.containerIndex licenses
    | .license, .container _ true => (⟨s.handedOut .license, []⟩, s)
    | .license, .container index false => s.containerLicenses index

def query (s : Session) (name : String) : Query → Reply × Session
  | .contents => s.onStore .content <| s.startStream name Program.contents
  | .licenses contentId size number => s.onStore .license <|
    s.startStream name (Program.licenses contentId size number)
  | .allLicenses size number => s.onStore .license <|
    s.startStream name (Program.allLicenses size number)
  | .numbers values failOn => s.openStream name (.ok values) (numberItem failOn)
  | .missing =>
    s.openStream name (.error (.refused (.missingTable "missing_table"))) (numberItem .null)

def insertRaw (s : Session) (table : String) (values : List (String × Datum)) : Reply × Session :=
  match s.database.insertWorded table values with
  | .ok db => (⟨.ok .done, []⟩, s.withDatabase db)
  | .error f => s.reading (.error f)

/-- A further table is made first, and stays if its index cannot be made. -/
def prepare (s : Session) : Fixture → Reply × Session
  | .legacyContent rows => s.ofExecuted (s.database.addLegacyContent rows)
  | .other index =>
    match s.database.addOther with
    | .error r => s.reading (.error (.refused r))
    | .ok db => (s.withDatabase db).ofExecuted (db.indexOther index)

def performing (s : Session) (x : Program Unit) : Reply × Session :=
  s.perform do
    x
    return .done

def step (s : Session) : Step → Reply × Session
  | .prepare f => s.prepare f
  | .insertRaw table values => s.insertRaw table values
  | .tables => s.reading (.ok (.names s.database.tableNames))
  | .columns table => s.reading ((s.database.columnsWorded table).map .columns)
  | .openStore t => s.openStore t
  | .dialect => s.reading (.ok (.dialect s.dialect))
  | .connections => s.reading (.ok (.connections s.connections))
  | .getContent id => s.onStore .content <|
    s.perform do return .item (.content (← Program.getContent id))
  | .addContent c => s.onStore .content <| s.performing (Program.addContent c)
  | .updateContent c => s.onStore .content <| s.performing (Program.updateContent c)
  | .listContents => s.onStore .content <| s.draining Program.contents answerItems
  | .getLicense id => s.onStore .license <| s.perform do return .license (← Program.getLicense id)
  | .addLicense l => s.onStore .license <| s.performing (Program.addLicense s.enforce l)
  | .updateLicense l clock => s.onStore .license <|
    s.performing (Program.updateLicense s.enforce l clock)
  | .updateRights l clock => s.onStore .license <| s.performing (Program.updateRights l clock)
  | .setStatus id status => s.onStore .license <| s.performing (Program.setStatus id status)
  | .listLicenses contentId size number => s.onStore .license <|
    s.draining (Program.licenses contentId size number) answerItems
  | .listAllLicenses size number => s.onStore .license <|
    s.draining (Program.allLicenses size number) answerItems
  | .dumpContents => s.onStore .content <| s.draining Program.contents (answerDump Schema.content)
  | .dumpLicenses size number => s.onStore .license <|
    s.draining (Program.allLicenses size number) (answerDump Schema.licenseReport)
  | .openStream name q => s.query name q
  | .next name => s.onStream name (.item <$> Stream.next)
  | .drain name => s.onStream name (.items <$> Stream.drain)
  | .close name => s.onStream name do
    Stream.close
    return .done
  | .scope name take abort => s.onStream name (.taken <$> Stream.within take abort)
  | .state name => s.onStream name do
    let u ← get
    return .state u.stream.cursor.isClosed u.world.pool.inUse.length
  | .undescribed none f => s.reading (.error (.undescribed f))
  | .undescribed (some t) f => s.onStore t <| s.reading (.error (.undescribed f))

def run (s : Session) : List Step → List Reply × Session
  | [] => ([], s)
  | x :: xs =>
    let (reply, s) := s.step x
    let (replies, s) := s.run xs
    (reply :: replies, s)

@[simp] theorem stream?_addStream_self (s : Session) (name : String) (t : Stream) :
    (s.addStream name t).stream? name = some t := by
  simp [addStream, stream?]

@[simp] theorem stream?_setStream_self (s : Session) (name : String) (t : Stream) :
    (s.setStream name t).stream? name = (s.stream? name).map fun _ => t := by
  simp [setStream, stream?, lookup_replaceFirst_self]

@[simp] theorem run_nil (s : Session) : s.run [] = ([], s) := rfl

@[simp] theorem run_cons (s : Session) (x : Step) (xs : List Step) :
    s.run (x :: xs) = ((s.step x).1 :: ((s.step x).2.run xs).1, ((s.step x).2.run xs).2) := rfl

theorem run_append (s : Session) (xs ys : List Step) :
    s.run (xs ++ ys) =
      ((s.run xs).1 ++ ((s.run xs).2.run ys).1, ((s.run xs).2.run ys).2) := by
  induction xs generalizing s with
  | nil => rfl
  | cons x xs ih => simp [ih]

@[simp] theorem length_run (s : Session) (xs : List Step) : (s.run xs).1.length = xs.length := by
  induction xs generalizing s with
  | nil => rfl
  | cons x xs ih => simp [ih]

/-- What was logged before the first step belongs to it. -/
def announce (log : List Event) : List Reply → List Reply
  | [] => []
  | r :: rs => { r with log := log ++ r.log } :: rs

end Session

end RightsStore
