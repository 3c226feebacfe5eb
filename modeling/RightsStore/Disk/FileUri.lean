import RightsStore.Text.Hex
import RightsStore.Text.Percent
import RightsStore.Text.Split

namespace RightsStore

open Text

inductive FileFault
  | unopenable
  | unreadable
  | readOnly
  | authority (text : List Char)
  | unknownAccess (mode : List Char)
  | forbiddenAccess (mode : List Char)
  | unknownCache (mode : List Char)
  | unknownSystem (name : List Char)
  deriving DecidableEq, Repr

def FileFault.message : FileFault → String
  | .unopenable => "unable to open database file"
  | .unreadable => "disk I/O error"
  | .readOnly => "attempt to write a readonly database"
  | .authority text => "invalid uri authority: " ++ .ofList text
  | .unknownAccess mode => "no such access mode: " ++ .ofList mode
  | .forbiddenAccess mode => "access mode not allowed: " ++ .ofList mode
  | .unknownCache mode => "no such cache mode: " ++ .ofList mode
  | .unknownSystem name => "no such vfs: " ++ .ofList name

inductive Access
  | memory
  | read
  | write
  | create
  deriving DecidableEq, Repr

namespace Access

def ofName? : String → Option Access
  | "memory" => some .memory
  | "ro" => some .read
  | "rw" => some .write
  | "rwc" => some .create
  | _ => none

/-- Access to a file must not grow; a database in memory neither asks for access nor limits it. -/
def permits : (old new : Access) → Bool
  | .memory, _ => true
  | _, .memory => true
  | .create, _ => true
  | .write, .create => false
  | .write, _ => true
  | .read, .read => true
  | .read, _ => false

end Access

structure FileUri where
  path : List Char
  parameters : List (List Char × List Char)
  deriving DecidableEq, Repr

namespace FileUri

def part (cs : List Char) : List Char := (percentDecoded cs).takeWhile (· != '\x00')

def scheme : List Char := "file:".toList

def afterAuthority : List Char → Except FileFault (List Char)
  | '/' :: '/' :: r =>
    let authority := r.takeWhile (· != '/')
    if authority.isEmpty || authority = "localhost".toList then .ok (r.dropWhile (· != '/'))
    else .error (.authority authority)
  | r => .ok r

def parameter? (cs : List Char) : Option (List Char × List Char) :=
  let name := part (cs.takeWhile (· != '='))
  if name.isEmpty then none else some (name, part ((cs.dropWhile (· != '=')).drop 1))

def ofText (cs : List Char) : Except FileFault FileUri := do
  let r := (← afterAuthority cs).takeWhile (· != '#')
  let query := (r.dropWhile (· != '?')).drop 1
  return {
    path := part (r.takeWhile (· != '?')), parameters := (splitAll '&' query).filterMap parameter? }

def cacheModes : List String := ["shared", "private"]

def accessOf (old : Access) : List (List Char × List Char) → Except FileFault Access
  | [] => .ok old
  | (name, value) :: ps =>
    match String.ofList name with
    | "mode" =>
      match Access.ofName? (.ofList value) with
      | none => .error (.unknownAccess value)
      | some new => if old.permits new then accessOf new ps else .error (.forbiddenAccess value)
    | "cache" =>
      if cacheModes.contains (.ofList value) then accessOf old ps else .error (.unknownCache value)
    | _ => accessOf old ps

def systems : List String := ["unix", "unix-dotfile", "unix-excl", "unix-none", "memdb"]

def system? (u : FileUri) : Option (List Char) := u.parameters.reverse.lookup "vfs".toList

def access (u : FileUri) : Except FileFault Access := do
  let a ← accessOf .create u.parameters
  match u.system? with
  | none => return a
  | some name => if systems.contains (.ofList name) then return a else .error (.unknownSystem name)

def inMemory (u : FileUri) : Bool := u.system? = some "memdb".toList

def valueIn (base : Nat) : (v : Nat) → List Char → Nat
  | v, [] => v
  | v, c :: r =>
    match hexValue? c with
    | some d => if d < base then valueIn base (base * v + d) r else v
    | none => v

/-- A number is true unless its last byte is 0 or it needs more than 31 bits. -/
def isTrueNumber (n : Nat) : Bool := n < 0x80000000 && n % 256 != 0

def isTrue : List Char → Bool
  | '0' :: x :: r =>
    isTrueNumber (if x.toLower = 'x' then valueIn 16 0 r else valueIn 10 0 (x :: r))
  | c :: r =>
    if c.isDigit then isTrueNumber (valueIn 10 0 (c :: r))
    else ["on", "yes", "true"].contains (String.ofList ((c :: r).map Char.toLower))
  | [] => false

def isImmutable (u : FileUri) : Bool := (u.parameters.lookup "immutable".toList).any isTrue

def model? (u : FileUri) : Option (List Char) := u.parameters.lookup "modeof".toList

end FileUri

end RightsStore
