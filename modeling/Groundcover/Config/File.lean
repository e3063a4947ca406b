import Groundcover.Config.Printer
import Groundcover.Config.Reader
import Groundcover.Storage

/-!
The configuration file of a directory. Loading makes a file with the defaults where none is there,
and never touches one that is.
-/

namespace Groundcover

inductive ConfigError
  | noDirectory
  | read (e : OsError)
  | write (e : OsError)
  | parse (e : Document.Error)
  | serialize
  deriving DecidableEq

def ConfigError.text : ConfigError → String
  | noDirectory => "could not determine a config directory; pass --config"
  | read e => "failed to read config: " ++ e.text
  | write e => "failed to write config: " ++ e.text
  | parse _ => "failed to parse config"
  | serialize => "failed to serialize config"

namespace Config

/-- The file of a configuration directory. -/
def fileIn (directory : Path) : Path := directory.join (.ofText "config.ron")

variable {m : Type → Type} [Monad m] [Storage m]

/-- Writes the configuration into a directory, which is made if it is missing. -/
def save (c : Config) (directory : Path) : m (Except ConfigError Unit) := do
  match ← Storage.makeDirs directory with
  | .error e => return .error (.write e)
  | .ok () =>
    match c.text? with
    | none => return .error .serialize
    | some text =>
      match ← Storage.writeText (fileIn directory) text with
      | .error e => return .error (.write e)
      | .ok () => return .ok ()

variable [Journal m]

/-- The configuration in a file that is there. -/
def load (file : Path) : m (Except ConfigError Config) := do
  match ← Storage.readText file with
  | .error e => return .error (.read e)
  | .ok text =>
    match Config.ofText text with
    | .error e => return .error (.parse e)
    | .ok c =>
      Journal.note ⟨.info, .config, "Loaded config from " ++ file.text⟩
      return .ok c

/-- The configuration of a directory, or the defaults, which are saved there. -/
def loadOrCreate (directory : Path) : m (Except ConfigError Config) := do
  let file := fileIn directory
  if ← Storage.pathExists file then load file
  else
    match ← save {} directory with
    | .error e => return .error e
    | .ok () =>
      Journal.note ⟨.info, .config, "Created default config at " ++ file.text⟩
      return .ok {}

end Config

end Groundcover
