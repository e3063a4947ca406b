import Groundcover.Text.Pieces
import Groundcover.Text.Utf8

/-!
Paths. A path is bytes, and slashes separate the names in it; it need not be text. Empty names and
single dots lead nowhere, so they are passed over where the last name or the parent is asked for.
-/

namespace Groundcover

structure Path where
  bytes : List UInt8 := []
  deriving DecidableEq, Inhabited

namespace Path

def slash : UInt8 := 47

def dot : UInt8 := 46

def ofText (text : String) : Path := ⟨Text.Utf8.encode text⟩

/-- The path for readers; bytes that are no text are replaced. -/
def text (p : Path) : String := Text.Utf8.lossy p.bytes

/-- The path as text, if it is text. -/
def text? (p : Path) : Option String := Text.Utf8.decode? p.bytes

def isAbsolute (p : Path) : Bool := p.bytes.head? == some slash

/-- A path below a directory; one that is absolute stands for itself. -/
def join (directory p : Path) : Path :=
  if p.isAbsolute then p
  else if directory.bytes.isEmpty || directory.bytes.getLast? == some slash then
    ⟨directory.bytes ++ p.bytes⟩
  else ⟨directory.bytes ++ slash :: p.bytes⟩

/-- The names between slashes. -/
def names (p : Path) : List (List UInt8) := Text.pieces (· == slash) p.bytes

/-- A name that leads nowhere. -/
def isTrivial (name : List UInt8) : Bool := name == [] || name == [dot]

def isUp (name : List UInt8) : Bool := name == [dot, dot]

/-- What stands before the names: the root, a leading dot, or nothing. -/
def head (p : Path) : List UInt8 :=
  match p.names with
  | [] :: _ :: _ => [slash]
  | name :: _ => if name == [dot] then name else []
  | [] => []

/-- The names behind the head from the last one on, as far as they lead somewhere. -/
def reversedNames (p : Path) : List (List UInt8) :=
  (Path.names ⟨p.bytes.drop p.head.length⟩).reverse.dropWhile isTrivial

/-- The path without its last name. The root and the empty path have none. -/
def parent? (p : Path) : Option Path :=
  match p.reversedNames with
  | [] => if p.head = [dot] then some ⟨[]⟩ else none
  | _ :: rest => some ⟨p.head ++ [slash].intercalate (rest.dropWhile isTrivial).reverse⟩

/-- The last name, unless it leads up. -/
def fileName? (p : Path) : Option (List UInt8) :=
  p.reversedNames.head?.filter fun name => !isUp name

/-- What follows the last dot of the last name, unless the name begins with that dot. -/
def extension? (p : Path) : Option (List UInt8) :=
  match p.fileName? with
  | none => none
  | some name =>
    let reversed := name.reverse
    match reversed.dropWhile (· ≠ dot) with
    | [] | [_] => none
    | _ :: _ :: _ => some (reversed.takeWhile (· ≠ dot)).reverse

/-- The path and what it lies in, up to `limit` levels. -/
def ancestorsWithin : Nat → Path → List Path
  | 0, _ => []
  | limit + 1, p =>
    p :: match p.parent? with
      | some q => ancestorsWithin limit q
      | none => []

/-- The path and all that it lies in. A parent is shorter, so the length bounds their number. -/
def ancestors (p : Path) : List Path := p.ancestorsWithin (p.bytes.length + 1)

end Path

end Groundcover
