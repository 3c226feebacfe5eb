import RightsStore.Backend
import RightsStore.Text.Case
import RightsStore.Text.Fraction

/-!
Engines: what a URL says about the database that is to be opened and how. An engine opens nothing
yet.
-/

namespace RightsStore

open Text

inductive EngineFault
  | url (f : UrlFault)
  | plugin (name : List Char)
  | backend (f : BackendFault)
  | notSqlite (url : List Char)
  | notTruth (word : List Char)
  | notFraction (text : List Char)
  | severalFractions
  | notInteger (text : List Char) (f : IntegerFault)
  | severalIntegers
  | noDatabase
  deriving DecidableEq, Repr

def EngineFault.message : EngineFault → String
  | .url f => f.message
  | .plugin name => "Can't load plugin: sqlalchemy.plugins:" ++ .ofList name
  | .backend f => f.message
  | .notSqlite shown => "Invalid SQLite URL: " ++ .ofList shown ++
    "\nValid SQLite URL forms are:\n sqlite:///:memory: (or, sqlite://)\n" ++
    " sqlite:///relative/path/to/file.db\n sqlite:////absolute/path/to/file.db"
  | .notTruth word => "String is not true/false: " ++ .ofList (quoted word)
  | .notFraction text => "could not convert string to float: " ++ .ofList (quoted text)
  | .severalFractions => "float() argument must be a string or a real number, not 'tuple'"
  | .notInteger text f => f.message (quoted text)
  | .severalIntegers =>
    "int() argument must be a string, a bytes-like object or a real number, not 'tuple'"
  | .noDatabase => "unsupported operand type(s) for +=: 'NoneType' and 'str'"

/-- What a connection is told beside its file. Of isolation levels only several at once matter. -/
structure ConnectOptions where
  uri : Bool := false
  levels : Bool := false
  detectTypes : Option Int := none
  cachedStatements : Option Int := none
  deriving DecidableEq, Repr

namespace ConnectOptions

def trueWords : List String := ["true", "yes", "on", "y", "t", "1"]

def falseWords : List String := ["false", "no", "off", "n", "f", "0"]

def readTruth : List (List Char) → Except EngineFault (Option Bool)
  | [] => .ok none
  | [text] =>
    let word := lower (trim text)
    if trueWords.contains (.ofList word) then .ok (some true)
    else if falseWords.contains (.ofList word) then .ok (some false)
    else .error (.notTruth word)
  | _ => .ok (some true)

def checkFraction : List (List Char) → Except EngineFault Unit
  | [] => .ok ()
  | [text] => if isFraction text then .ok () else .error (.notFraction text)
  | _ => .error .severalFractions

def readInteger : List (List Char) → Except EngineFault (Option Int)
  | [] => .ok none
  | [text] =>
    match Text.readInteger text with
    | .ok n => .ok (some n)
    | .error f => .error (.notInteger text f)
  | _ => .error .severalIntegers

def names : List String :=
  ["uri", "timeout", "isolation_level", "detect_types", "check_same_thread", "cached_statements"]

def ofQuery (q : UrlQuery) : Except EngineFault ConnectOptions := do
  let uri ← readTruth (q.values "uri")
  checkFraction (q.values "timeout")
  let detectTypes ← readInteger (q.values "detect_types")
  let _ ← readTruth (q.values "check_same_thread")
  let cachedStatements ← readInteger (q.values "cached_statements")
  return {
    uri := uri.getD false, levels := (q.values "isolation_level").length > 1
    detectTypes, cachedStatements }

end ConnectOptions

/-- What a database is to be opened by: a path, or a name that may be a URI and may be missing. -/
inductive Source
  | memory
  | path (text : List Char)
  | name (text : Option (List Char))
  deriving DecidableEq, Repr

structure Engine where
  backend : Backend
  database : Option (List Char)
  options : ConnectOptions := {}
  source : Source := .memory
  deriving DecidableEq, Repr

/-- The packages of drivers that are there, and what drivers for servers have against a URL. -/
structure Installation where
  packages : List String := []
  check : Backend → DatabaseUrl → Except EngineFault Unit := fun _ _ => .ok ()

namespace Engine

def memoryName : List Char := ":memory:".toList

def shownValues : List (List Char) → List Char
  | [text] => text
  | texts => '(' :: [',', ' '].intercalate (texts.map quoted) ++ [')']

def shownParameters (q : UrlQuery) : List Char :=
  ['&'].intercalate (q.sorted.map fun e => e.1 ++ '=' :: shownValues e.2)

/-- A name that may be a URI takes the rest of the query along. -/
def sourceOf (o : ConnectOptions) (url : DatabaseUrl) : Except EngineFault Source :=
  if o.uri then
    match url.query.without ConnectOptions.names, url.database with
    | [], database => .ok (.name database)
    | _, none => .error .noDatabase
    | parameters, some database =>
      .ok (.name (some (database ++ '?' :: shownParameters parameters)))
  else
    let text := url.database.getD []
    .ok (if text.isEmpty || text = memoryName then .memory else .path text)

def isLocal (url : DatabaseUrl) : Bool :=
  let given := fun (part : Option (List Char)) => !(part.getD []).isEmpty
  !given url.username && !given url.password && !given url.host && url.port.getD 0 = 0

def checkPlugins (url : DatabaseUrl) : Except EngineFault DatabaseUrl :=
  match url.query.values "plugin" with
  | name :: _ => .error (.plugin name)
  | [] => .ok { url with query := url.query.without ["plugins"] }

def ofLocal (url : DatabaseUrl) : Except EngineFault Engine := do
  if !isLocal url then throw (.notSqlite url.shown)
  let options ← ConnectOptions.ofQuery url.query
  let source ← sourceOf options url
  return { backend := .sqlite, database := url.database, options, source }

def create (i : Installation) (cs : List Char) : Except EngineFault Engine := do
  let url ← (DatabaseUrl.ofText cs).mapError .url
  let url ← checkPlugins url
  let backend ← (Backend.ofUrl i.packages url).mapError .backend
  if backend = .sqlite then ofLocal url
  else
    i.check backend url
    return { backend, database := url.database }

def ofUrl (cs : List Char) : Except EngineFault Engine := create {} cs

def followsReferences (e : Engine) : Bool := e.backend.name = "sqlite"

end Engine

end RightsStore
