import Groundcover.Manifest.Reader
import Groundcover.Storage

/-!
Manifests from files.
-/

namespace Groundcover

inductive ManifestError
  | read (e : OsError)
  | parse (e : Document.Error)
  deriving DecidableEq

def ManifestError.text : ManifestError → String
  | read e => "failed to read land cover manifest: " ++ e.text
  | parse _ => "failed to parse land cover manifest"

namespace Manifest

variable {m : Type → Type} [Monad m] [Storage m] [Journal m]

/-- The manifest in a file. -/
def load (file : Path) : m (Except ManifestError Manifest) := do
  match ← Storage.readText file with
  | .error e => return .error (.read e)
  | .ok text =>
    match Manifest.ofText text with
    | .error e => return .error (.parse e)
    | .ok manifest =>
      Journal.note ⟨.info, .manifest, "Loaded land cover manifest from " ++ file.text⟩
      return .ok manifest

end Manifest

end Groundcover
