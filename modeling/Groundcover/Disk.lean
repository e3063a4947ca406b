import Groundcover.Path

/-!
A tree of directories and files. A place in the tree is the list of names that lead to it from the
root, the innermost name first; paths lead to places from the root or from the current directory.
-/

namespace Groundcover

/-- Why a file or a directory could not be used. -/
inductive OsError
  | notFound
  | alreadyExists
  | notDirectory
  | isDirectory
  | nameTooLong
  | zeroByte
  | notUtf8
  | other (text : String)
  deriving DecidableEq, Repr

def OsError.text : OsError → String
  | notFound => "No such file or directory (os error 2)"
  | alreadyExists => "File exists (os error 17)"
  | notDirectory => "Not a directory (os error 20)"
  | isDirectory => "Is a directory (os error 21)"
  | nameTooLong => "File name too long (os error 36)"
  | zeroByte => "file name contained an unexpected NUL byte"
  | notUtf8 => "stream did not contain valid UTF-8"
  | other text => text

inductive Node
  | directory
  | file (content : List UInt8)
  deriving DecidableEq

/-- A place in the tree, the innermost name first. -/
abbrev Location := List (List UInt8)

structure Disk where
  entries : List (Location × Node) := []
  here : Location := []
  deriving DecidableEq

namespace Disk

/-- What is at a place. The root is always there. -/
def at? (d : Disk) : Location → Option Node
  | [] => some .directory
  | name :: rest => d.entries.lookup (name :: rest)

def put (d : Disk) (l : Location) (node : Node) : Disk :=
  { d with entries := (l, node) :: d.entries.filter fun e => e.1 ≠ l }

def erase (d : Disk) (l : Location) : Disk :=
  { d with entries := d.entries.filter fun e => e.1 ≠ l }

theorem lookup_filter {entries : List (Location × Node)} {l k : Location} (h : k ≠ l) :
    (entries.filter fun e => e.1 ≠ l).lookup k = entries.lookup k := by
  induction entries with
  | nil => rfl
  | cons entry rest ih =>
    obtain ⟨place, node⟩ := entry
    by_cases hp : place = l
    · have hk : (k == place) = false := by simpa [hp] using h
      rw [List.filter_cons_of_neg (by simpa using hp), ih]
      simp only [List.lookup_cons, hk]
    · rw [List.filter_cons_of_pos (by simpa using hp)]
      simp only [List.lookup_cons]
      split
      · rfl
      · exact ih

/-- Putting something at a place changes that place alone. -/
theorem at?_put {d : Disk} {l : Location} (node : Node) (h : l ≠ []) (k : Location) :
    (d.put l node).at? k = if k = l then some node else d.at? k := by
  cases k with
  | nil => simp [at?, h.symm]
  | cons name rest =>
    by_cases hk : name :: rest = l
    · simp [at?, put, hk]
    · have hb : (name :: rest == l) = false := by simpa using hk
      simp only [at?, put, List.lookup_cons, hb, hk, if_false]
      exact lookup_filter hk

def maxNameLength : Nat := 255

def maxPathLength : Nat := 4095

/-- One step of the way. Only a directory leads on. -/
def step (d : Disk) (l : Location) (name : List UInt8) : Except OsError Location :=
  match d.at? l with
  | none => .error .notFound
  | some (.file _) => .error .notDirectory
  | some .directory =>
    if Path.isTrivial name then .ok l
    else if Path.isUp name then .ok l.tail
    else if maxNameLength < name.length then .error .nameTooLong
    else .ok (name :: l)

/-- The place that a path leads to by the given names of it. Nothing needs to be there yet. -/
def follow (d : Disk) (p : Path) (names : List (List UInt8)) : Except OsError Location :=
  if p.bytes.isEmpty then .error .notFound
  else if p.bytes.contains 0 then .error .zeroByte
  else if maxPathLength < p.bytes.length then .error .nameTooLong
  else names.foldlM d.step (if p.isAbsolute then [] else d.here)

def locate (d : Disk) (p : Path) : Except OsError Location := d.follow p p.names

/-- What a path leads to. -/
def lookup (d : Disk) (p : Path) : Except OsError Node := do
  match d.at? (← d.locate p) with
  | some node => return node
  | none => .error .notFound

/-- Makes a directory in one that is there. Slashes behind its name do not matter. -/
def makeDir (d : Disk) (p : Path) : Except OsError Disk := do
  let l ← d.follow p (p.names.reverse.dropWhile List.isEmpty).reverse
  match d.at? l with
  | some _ => .error .alreadyExists
  | none => return d.put l .directory

/-- Makes a file in a directory that is there, or replaces the content of one. -/
def write (d : Disk) (p : Path) (content : List UInt8) : Except OsError Disk := do
  let l ← d.locate p
  match d.at? l with
  | some .directory => .error .isDirectory
  | _ => return d.put l (.file content)

/-- Removes a file. -/
def remove (d : Disk) (p : Path) : Except OsError Disk := do
  let l ← d.locate p
  match d.at? l with
  | none => .error .notFound
  | some .directory => .error .isDirectory
  | some (.file _) => return d.erase l

end Disk

end Groundcover
