import Groundcover.Disk
import Groundcover.Log

/-!
Files and directories for computations that use some. What is asked of storage is small: to open, to
make one directory, and to write one file. A disk in memory is storage.
-/

namespace Groundcover

class Storage (m : Type → Type) where
  openNode : Path → m (Except OsError Node)
  makeDir : Path → m (Except OsError Unit)
  write : Path → List UInt8 → m (Except OsError Unit)

namespace Disk

/-- An operation on the disk, which stays as it is when the operation fails. -/
def change {m : Type → Type} [Monad m] (operation : Disk → Except OsError Disk) :
    StateT Disk m (Except OsError Unit) := do
  match operation (← get) with
  | .ok d =>
    set d
    return .ok ()
  | .error e => return .error e

instance {m : Type → Type} [Monad m] : Storage (StateT Disk m) where
  openNode p := return (← get).lookup p
  makeDir p := change fun d => d.makeDir p
  write p content := change fun d => d.write p content

end Disk

instance {σ : Type} {m : Type → Type} [Monad m] [Storage m] : Storage (StateT σ m) where
  openNode p := StateT.lift (Storage.openNode p)
  makeDir p := StateT.lift (Storage.makeDir p)
  write p content := StateT.lift (Storage.write p content)

namespace Storage

variable {m : Type → Type} [Monad m] [Storage m]

def pathExists (p : Path) : m Bool := do
  match ← openNode p with
  | .ok _ => return true
  | .error _ => return false

def isDirectory (p : Path) : m Bool := do
  match ← openNode p with
  | .ok .directory => return true
  | _ => return false

/-- The content of a file. -/
def readBytes (p : Path) : m (Except OsError (List UInt8)) := do
  match ← openNode p with
  | .ok (.file content) => return .ok content
  | .ok .directory => return .error .isDirectory
  | .error e => return .error e

/-- The content of a file that holds text. -/
def readText (p : Path) : m (Except OsError String) := do
  match ← readBytes p with
  | .error e => return .error e
  | .ok content =>
    match Text.Utf8.decode? content with
    | some text => return .ok text
    | none => return .error .notUtf8

def writeText (p : Path) (text : String) : m (Except OsError Unit) :=
  write p (Text.Utf8.encode text)

/-- Makes a directory unless it is there; a file in its place is an error. -/
def ensureDir (p : Path) : m (Except OsError Unit) := do
  match ← makeDir p with
  | .ok () => return .ok ()
  | .error .alreadyExists =>
    if ← isDirectory p then return .ok () else return .error .alreadyExists
  | .error e => return .error e

/-- Whether a path names a directory that could be missing. -/
def canBeMade (p : Path) : Bool := !p.bytes.isEmpty && p.parent?.isSome

/--
Goes up to the first directory that is there or can be made. The paths below it are left to make,
from the innermost on.
-/
def missingDirs : List Path → m (Except OsError (List Path))
  | [] => return .ok []
  | p :: outer => do
    if !canBeMade p then return .ok []
    match ← ensureDir p with
    | .ok () => return .ok []
    | .error .notFound =>
      match ← missingDirs outer with
      | .ok inner => return .ok (p :: inner)
      | .error e => return .error e
    | .error e => return .error e

/-- Makes directories one after the other, up to the first failure. -/
def ensureDirs : List Path → m (Except OsError Unit)
  | [] => return .ok ()
  | p :: rest => do
    match ← ensureDir p with
    | .ok () => ensureDirs rest
    | .error e => return .error e

/-- Makes a directory with all that it lies in, as far as they are missing. -/
def makeDirs (p : Path) : m (Except OsError Unit) := do
  match ← missingDirs p.ancestors with
  | .error e => return .error e
  | .ok missing => ensureDirs missing.reverse

end Storage

end Groundcover
