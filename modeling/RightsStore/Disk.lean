import RightsStore.Database.Statements
import RightsStore.Disk.FileUri
import RightsStore.Disk.Path
import RightsStore.Engine

/-!
Disks: directories, and databases in files. An engine finds its database on a disk, or has one in
memory, which does not outlive its connection.
-/

namespace RightsStore

/-- Relative paths are read from `working`. In a directory that is `closed` no files can be made. -/
structure Disk where
  working : Path := []
  directories : List Path
  closed : List Path := []
  files : List (Path × Database) := []

inductive ConnectFault
  | integerRange
  | isolationLevel
  | noName
  | nullCharacter
  deriving DecidableEq, Repr

def ConnectFault.message : ConnectFault → String
  | .integerRange => "Python int too large to convert to C int"
  | .isolationLevel =>
    "isolation_level string must be '', 'DEFERRED', 'IMMEDIATE', or 'EXCLUSIVE'"
  | .noName => "expected str, bytes or os.PathLike object, not NoneType"
  | .nullCharacter => "embedded null byte"

inductive Location
  | memory
  | file (p : Path)
  deriving DecidableEq, Repr

namespace Disk

def systemDirectories : List String := ["/", "/bin", "/boot", "/dev", "/dev/shm", "/etc", "/home",
  "/lib", "/lib64", "/media", "/mnt", "/opt", "/proc", "/root", "/run", "/sbin", "/srv", "/sys",
  "/tmp", "/usr", "/usr/bin", "/usr/lib", "/usr/local", "/usr/sbin", "/usr/share", "/var",
  "/var/cache", "/var/lib", "/var/log", "/var/tmp"]

def stateDirectories : List String := ["/proc", "/sys"]

def empty : Disk where
  directories := systemDirectories.map fun name => .ofText [] name.toList
  closed := stateDirectories.map fun name => .ofText [] name.toList

def addDirectory (d : Disk) (name : String) : Disk :=
  { d with directories := [name.toList] :: d.directories }

def workIn (d : Disk) (name : String) : Disk :=
  { d.addDirectory name with working := [name.toList] }

def database (d : Disk) : Location → Database
  | .memory => {}
  | .file p => (d.files.lookup p).getD {}

def store (d : Disk) (db : Database) : Location → Disk
  | .memory => d
  | .file p => { d with files := (p, db) :: d.files.filter (·.1 != p) }

def isFile (d : Disk) (p : Path) : Bool := d.files.any (·.1 = p)

def isDirectory (d : Disk) (p : Path) : Bool := d.directories.contains p

def longestName : Nat := 255

def longestPath : Nat := 512

def journalSize : Nat := 8

def enter (d : Disk) (p : Path) (name : List Char) : Except FileFault Path :=
  let q := p.step name
  let overlong := d.isDirectory p && longestName < Path.sizeOfName name || longestPath ≤ q.size
  if p.length < q.length && (d.isFile p || overlong) then .error .unopenable else .ok q

def resolve (d : Disk) (start : Path) (names : List (List Char)) : Except FileFault Path := do
  let p ← names.foldlM d.enter start
  if p.isEmpty || longestPath < p.size + journalSize then .error .unopenable else return p

def leads (d : Disk) (p : Path) : (names : List (List Char)) → Bool
  | [] => d.isDirectory p || d.isFile p
  | name :: names => d.isDirectory p && d.leads (p.step name) names

def isThere (d : Disk) (text : List Char) : Bool :=
  !text.isEmpty && d.leads (Path.start d.working text) (Path.names text)

def hasRoom (d : Disk) (p : Path) : Bool :=
  d.isDirectory p.parent && !d.closed.contains p.parent && !d.isDirectory p

def openFile (d : Disk) (create : Bool) (p : Path) : Except FileFault Location :=
  let name := Path.sizeOfName (p.getLast?.getD [])
  if name ≤ longestName && (d.isFile p || create && d.hasRoom p) then .ok (.file p)
  else .error .unopenable

def openWritten (d : Disk) (create : Bool) (p : Path) : Except FileFault Location :=
  let name := Path.sizeOfName (p.getLast?.getD [])
  if name + journalSize ≤ longestName then d.openFile create p else .error .unopenable

/-- A database that is not written must have its tables already. -/
def requireTables (d : Disk) (l : Location) : Except FileFault Location :=
  if (d.database l).has .content && (d.database l).has .license then .ok l else .error .readOnly

def openWith (d : Disk) (immutable : Bool) (access : Access) (p : Path) :
    Except FileFault Location :=
  if access = .read then
    if d.isDirectory p then .error .unreadable else d.openFile false p >>= d.requireTables
  else if immutable then d.openFile (access = .create) p >>= d.requireTables
  else d.openWritten (access = .create) p

def isMemoryName (name : List Char) : Bool := name.isEmpty || name = Engine.memoryName

def openMemory (readOnly : Bool) : Except FileFault Location :=
  if readOnly then .error .readOnly else .ok .memory

def longestMemoryName : Nat := 1024

/-- The file whose permissions a new one gets must be there, even if none is created. -/
def locateUri (d : Disk) (u : FileUri) : Except FileFault Location := do
  let access ← u.access
  if access = .memory then return .memory
  else if isMemoryName u.path then openMemory (access = .read)
  else if u.inMemory then
    if longestMemoryName < Path.sizeOfName u.path + journalSize then .error .unopenable
    else openMemory (access = .read || u.isImmutable)
  else
    let p ← d.resolve (Path.start d.working u.path) (Path.names u.path)
    if u.model?.all d.isThere then d.openWith u.isImmutable access p else .error .unreadable

/-- Finds a database; a plain path is simplified before the disk is asked. -/
def find (d : Disk) : Source → Except FileFault Location
  | .memory => .ok .memory
  | .path text => d.resolve [] (Path.ofText d.working text) >>= d.openWritten true
  | .name text =>
    let name := text.getD []
    if FileUri.scheme.isPrefixOf name then do
      d.locateUri (← FileUri.ofText (name.drop FileUri.scheme.length))
    else if isMemoryName name then .ok .memory
    else d.resolve (Path.start d.working name) (Path.names name) >>= d.openWritten true

end Disk

namespace Engine

def fitsInt (n : Int) : Bool := -0x80000000 ≤ n && n < 0x80000000

def checkSource : Source → Except ConnectFault Unit
  | .memory => .ok ()
  | .path text =>
    if (Path.ofText [] text).any (·.contains '\x00') then .error .nullCharacter else .ok ()
  | .name none => .error .noName
  | .name (some name) => if name.contains '\x00' then .error .nullCharacter else .ok ()

def checkConnect (e : Engine) : Except ConnectFault Unit :=
  if !fitsInt (e.options.detectTypes.getD 0) then .error .integerRange
  else if e.options.levels then .error .isolationLevel
  else if !fitsInt (e.options.cachedStatements.getD 0) then .error .integerRange
  else checkSource e.source

end Engine

end RightsStore
