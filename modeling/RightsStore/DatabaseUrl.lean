import RightsStore.Text.Integer
import RightsStore.Text.Percent
import RightsStore.Text.Quoted
import RightsStore.Text.Split
import RightsStore.Text.Word

namespace RightsStore

open Text

abbrev UrlQuery := List (List Char × List (List Char))

structure DatabaseUrl where
  driverName : List Char
  username : Option (List Char) := none
  password : Option (List Char) := none
  host : Option (List Char) := none
  port : Option Int := none
  database : Option (List Char) := none
  query : UrlQuery := []
  deriving DecidableEq, Repr

inductive UrlFault
  | malformed
  | port (text : List Char) (f : IntegerFault)
  deriving DecidableEq, Repr

def UrlFault.message : UrlFault → String
  | .malformed => "Could not parse SQLAlchemy URL from given URL string"
  | .port text f => f.message (quoted text)

namespace UrlQuery

def add (q : UrlQuery) (name value : List Char) : UrlQuery :=
  if q.any (·.1 = name) then q.map fun e => if e.1 = name then (name, e.2 ++ [value]) else e
  else q ++ [(name, [value])]

def pair? (cs : List Char) : Option (List Char × List Char) :=
  match cs.dropWhile (· != '=') with
  | _ :: c :: r => some (formDecoded (cs.takeWhile (· != '=')), formDecoded (c :: r))
  | _ => none

def ofText (cs : List Char) : UrlQuery :=
  ((splitAll '&' cs).filterMap pair?).foldl (fun q p => q.add p.1 p.2) []

def values (q : UrlQuery) (name : String) : List (List Char) := (q.lookup name.toList).getD []

def without (q : UrlQuery) (names : List String) : UrlQuery :=
  q.filter fun e => !names.contains (.ofList e.1)

def sorted (q : UrlQuery) : UrlQuery := q.mergeSort fun a b => !(b.1 < a.1)

end UrlQuery

namespace DatabaseUrl

def upTo (stops : List Char) (cs : List Char) : List Char × List Char :=
  (cs.takeWhile (!stops.contains ·), cs.dropWhile (!stops.contains ·))

def cutAtLast (c : Char) (cs : List Char) : Option (List Char × List Char) :=
  match cs.reverse.dropWhile (· != c) with
  | [] => none
  | _ :: before => some (before.reverse, cs.drop (before.length + 1))

def splitUser (cs : List Char) :
    Option (List Char) × Option (List Char) × List Char :=
  let (name, r) := upTo [':', '/'] cs
  let atPassword := match r with
    | ':' :: r =>
      match upTo ['@'] r with
      | (password, '@' :: r) => some (password, r)
      | _ => none
    | _ => none
  match atPassword, cutAtLast '@' name with
  | some (password, r), _ => (some name, some password, r)
  | none, some (user, host) => (some user, none, host ++ r)
  | none, none => (none, none, cs)

def splitHost (cs : List Char) : Option (List Char) × List Char :=
  let plain := match upTo ['/', ':', '?'] cs with
    | ([], r) => (none, r)
    | (host, r) => (some host, r)
  match cs with
  | '[' :: r =>
    let (run, rest) := upTo ['/', '?'] r
    match cutAtLast ']' run with
    | some (c :: host, after) => (some (c :: host), after ++ rest)
    | _ => plain
  | _ => plain

def splitPart (lead : Char) (stops : List Char) (cs : List Char) :
    Option (List Char) × List Char :=
  match cs with
  | c :: r => if c = lead then let (part, r) := upTo stops r; (some part, r) else (none, cs)
  | [] => (none, [])

def isNameChar (c : Char) : Bool := isWord c || c == '+'

def readPort : Option (List Char) → Except UrlFault (Option Int)
  | none => .ok none
  | some text =>
    match readInteger text with
    | .ok n => .ok (some n)
    | .error f => .error (.port text f)

def ofText (cs : List Char) : Except UrlFault DatabaseUrl :=
  let name := cs.takeWhile isNameChar
  match name, cs.dropWhile isNameChar with
  | _ :: _, ':' :: '/' :: '/' :: r => do
    let (username, password, r) := splitUser r
    let (host, r) := splitHost r
    let (port, r) := splitPart ':' ['/', '?'] r
    let (database, r) := splitPart '/' ['?'] r
    let (query, _) := splitPart '?' ['\n'] r
    return {
      driverName := name
      username := username.map percentDecoded, password := password.map percentDecoded
      host, port := ← readPort port, database := database.map percentDecoded
      query := (query.map UrlQuery.ofText).getD [] }
  | _, _ => .error .malformed

def shownPart (lead : Char) (part : Option (List Char)) : List Char :=
  (part.map (lead :: ·)).getD []

def shownUser (url : DatabaseUrl) : List Char :=
  match url.username with
  | none => []
  | some name =>
    let password := if url.password.isSome then ":***".toList else []
    percentEncoded [' ', '+'] name ++ password ++ ['@']

def shownHost (host : List Char) : List Char :=
  if host.contains ':' then '[' :: host ++ [']'] else host

def shownQuery (q : UrlQuery) : List Char :=
  let pairs := q.sorted.flatMap fun e =>
    e.2.map fun value => formEncoded e.1 ++ '=' :: formEncoded value
  if pairs.isEmpty then [] else '?' :: ['&'].intercalate pairs

def shown (url : DatabaseUrl) : List Char :=
  url.driverName ++ "://".toList ++ url.shownUser ++ (url.host.map shownHost).getD [] ++
    shownPart ':' (url.port.map fun n => (toString n).toList) ++
    shownPart '/' (url.database.map (percentEncoded [' ', '+', '/'])) ++ shownQuery url.query

def parts (url : DatabaseUrl) : List Char × Option (List Char) :=
  match url.driverName.dropWhile (· != '+') with
  | [] => (url.driverName, none)
  | _ :: r => (url.driverName.takeWhile (· != '+'), some r)

end DatabaseUrl

end RightsStore
