import RightsStore.Calendar.Iso
import RightsStore.Record.Shown
import RightsStore.Schema
import RightsStore.Text.Integer
import RightsStore.Text.Utf8

namespace RightsStore.Schema

open Text

inductive Undumpable
  | notText (b : Utf8.Broken)
  | notInteger (shown : List Char) (f : IntegerFault)
  | infinite
  | notNumber
  | noNumber (kind : String)
  | notMoment (kind : String)
  | notMany (kind : String)
  deriving DecidableEq, Repr

def Undumpable.message : Undumpable → String
  | .notText b => b.message
  | .notInteger shown f => f.message shown
  | .infinite => "cannot convert float infinity to integer"
  | .notNumber => "cannot convert float NaN to integer"
  | .noNumber kind =>
    s!"int() argument must be a string, a bytes-like object or a real number, not '{kind}'"
  | .notMoment kind => "descriptor 'isoformat' for 'datetime.datetime' objects doesn't apply to " ++
    s!"a '{kind}' object"
  | .notMany kind => s!"'{kind}' object is not iterable"

def asciiText (b : Bytes) : List Char :=
  b.map fun x => if x.toNat < 0x80 then Char.ofNat x.toNat else '\ufffd'

def dumpNumeral (cs shown : List Char) : Except Undumpable Int :=
  (readInteger cs).mapError (.notInteger shown)

def dumpInteger : Document → Except Undumpable Int
  | .int n => .ok n
  | .flag b => .ok (if b then 1 else 0)
  | .real x =>
    match x.truncated? with
    | some n => .ok n
    | none => .error .infinite
  | .irregular .negativeZero => .ok 0
  | .irregular .notNumber => .error .notNumber
  | .text s => dumpNumeral s.toList (quoted s.toList)
  | .blob b => dumpNumeral (asciiText b) (shownBytes (b.take 200))
  | d => .error (.noNumber d.kind)

def Kind.dump (k : Kind) (d : Document) : Except Undumpable Document :=
  match d, k with
  | .null, _ => .ok .null
  | .blob b, .text =>
    match Utf8.decode b with
    | .ok cs => .ok (.text (.ofList cs))
    | .error b => .error (.notText b)
  | d, .text => .ok (.text d.plain)
  | d, .integer => (dumpInteger d).map .int
  | .moment t, .moment => .ok (.text (.ofList t.iso))
  | d, .moment => .error (.notMoment d.kind)

/-- Operations of every object and of every list, which are found where no field of that name is. -/
def objectOperations : List String :=
  ["clear", "copy", "fromkeys", "get", "items", "keys", "pop", "popitem", "setdefault", "update",
    "values"]

def listOperations : List String :=
  ["append", "clear", "copy", "count", "extend", "index", "insert", "pop", "remove", "reverse",
    "sort"]

/-- An operation is no number and no moment. No field of a text bears the name of one. -/
def Kind.dumpOperation : Kind → Except Undumpable (Option Document)
  | .text => .ok none
  | .integer => .error (.noNumber "builtin_function_or_method")
  | .moment => .error (.notMoment "builtin_function_or_method")

def Field.dumpAbsent (f : Field) : Document → Except Undumpable (Option Document)
  | .leaf _ => .ok none
  | .object _ => if objectOperations.contains f.name then f.kind.dumpOperation else .ok none
  | .list _ => if listOperations.contains f.name then f.kind.dumpOperation else .ok none

def Field.dump (f : Field) (source : Document) : Except Undumpable (Option Document) :=
  match source.field? f.name with
  | some d => (f.kind.dump d).map some
  | none => f.dumpAbsent source

def dumpFields (fields : List Field) (source : Document) :
    Except Undumpable (List (String × Document)) :=
  match fields with
  | [] => .ok []
  | f :: fs => do
    let d ← f.dump source
    let ds ← dumpFields fs source
    return (d.map ((f.name, ·))).toList ++ ds

def Entry.dump (e : Entry) (source : Document) : Except Undumpable (Option Document) :=
  match e with
  | .field f => f.dump source
  | .group name fields =>
    match source.field? name with
    | none => .ok none
    | some .null => .ok (some .null)
    | some d => (dumpFields fields d).map (some ∘ .object)

def dumpEntries (entries : List Entry) (source : Document) :
    Except Undumpable (List (String × Document)) :=
  match entries with
  | [] => .ok []
  | e :: es => do
    let d ← e.dump source
    let ds ← dumpEntries es source
    return (d.map ((e.name, ·))).toList ++ ds

def dump (s : Schema) (source : Document) : Except Undumpable Document :=
  (dumpEntries s source).map .object

def dumpMany (s : Schema) (sources : List Document) : Except Undumpable Document :=
  (sources.mapM s.dump).map .list

/-- Dumps all that a document holds: the names of an object, the characters of a text. Null is one
object without fields. -/
def dumpEach (s : Schema) : Document → Except Undumpable Document
  | .list ds => s.dumpMany ds
  | .object fs => s.dumpMany (fs.map fun f => .text f.1)
  | .text t => s.dumpMany (t.toList.map fun c => .text (.singleton c))
  | .null => s.dump .null
  | d => .error (.notMany d.kind)

end RightsStore.Schema
