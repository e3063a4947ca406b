import Groundcover.Log
import Groundcover.Single

/-!
Libraries of billboard images with their default sizes. The names in a library are distinct: a
configuration that repeats one is refused, with the first name that occurred before.
-/

namespace Groundcover

/-- An image with the size it has unless a symbol says otherwise. -/
structure Resource where
  name : String
  url : String
  width : Single
  height : Single
  deriving DecidableEq

/-- A library as a manifest states it. -/
structure LibraryConfig where
  name : String := ""
  resources : List Resource := []
  deriving DecidableEq

/-- Resources by name. -/
structure Library where
  name : String
  resources : List Resource
  deriving DecidableEq

/-- A name given to two resources of one library. -/
structure DuplicateResource where
  library : String
  resource : String
  deriving DecidableEq

def DuplicateResource.text (e : DuplicateResource) : String :=
  "duplicate resource \"" ++ e.resource ++ "\" in library \"" ++ e.library ++ "\""

/-- The first name that occurs among those before it. -/
def firstRepeat? (seen : List String) : List String → Option String
  | [] => none
  | name :: rest => if name ∈ seen then some name else firstRepeat? (name :: seen) rest

namespace Library

def ofConfig (c : LibraryConfig) : Logged (Except DuplicateResource Library) :=
  match firstRepeat? [] (c.resources.map Resource.name) with
  | some name => ⟨.error ⟨c.name, name⟩, []⟩
  | none =>
    ⟨.ok ⟨c.name, c.resources⟩,
      [⟨.debug, .library, "initialized resource library \"" ++ c.name ++ "\" with "
        ++ toString c.resources.length ++ " resources"⟩]⟩

def get? (l : Library) (name : String) : Option Resource :=
  l.resources.find? fun r => r.name = name

def size (l : Library) : Nat := l.resources.length

end Library

end Groundcover
