import Groundcover.Image.Size
import Groundcover.Storage

/-!
Images from files, each url decoded once. A url that has been loaded keeps its image for good; one
that failed is tried again.
-/

namespace Groundcover

/-- The images loaded so far, by url. -/
structure ImageCache where
  known : List (String × Image) := []
  deriving DecidableEq

namespace ImageCache

def get? (c : ImageCache) (url : String) : Option Image := c.known.lookup url

/-- Adds a decoded image, which differs from all images before it. -/
def insert (c : ImageCache) (url : String) (width height : Nat) : Image × ImageCache :=
  let image : Image := ⟨c.known.length, width, height⟩
  (image, ⟨c.known ++ [(url, image)]⟩)

variable {m : Type → Type} [Monad m] [Storage m]

/-- The size of the image in a file. The file is opened before its name is looked at. -/
def sizeOfFile (p : Path) : m (Except ImageError (Nat × Nat)) := do
  match ← Storage.openNode p with
  | .error e => return .error (.io e)
  | .ok node =>
    match ImageFormat.ofPath p with
    | .error e => return .error e
    | .ok format =>
      if !format.isSupported then return .error (.unsupported format)
      match node with
      | .directory => return .error (.io .isDirectory)
      | .file content => return format.size content

variable [Journal m]

/-- The image of a url below a directory. -/
def load (base : Path) (url : String) : StateT ImageCache m (Except ImageError Image) := do
  match (← get).get? url with
  | some image => return .ok image
  | none =>
    let path := base.join (.ofText url)
    Journal.note ⟨.debug, .loader, "loading billboard image " ++ path.text⟩
    match ← sizeOfFile path with
    | .error e => return .error e
    | .ok (width, height) =>
      let (image, cache) := (← get).insert url width height
      set cache
      return .ok image

end ImageCache

end Groundcover
