import Groundcover.Config
import Groundcover.Image.Cache
import Groundcover.LandCover
import Groundcover.Manifest.File
import Groundcover.Output

/-!
Generation of shader files: from the manifest in a file to one file for each shader. Shaders are all
generated before the first file is written, and writing stops at the first file that fails.
-/

namespace Groundcover

/-- Why a generation ends early. -/
inductive GenerationError
  | noManifest
  | manifest (e : ManifestError)
  | duplicateResource (e : DuplicateResource)
  | write (path : Path) (e : OsError)
  | warningsDenied (count : Nat)
  deriving DecidableEq

def GenerationError.text : GenerationError → String
  | noManifest => "no land cover manifest given; pass --manifest or set generator.manifest"
  | manifest e => e.text
  | duplicateResource e => e.text
  | write path e => "failed to write " ++ path.text ++ ": " ++ e.text
  | warningsDenied count =>
    toString count ++ " configuration warning(s) raised with deny_warnings enabled"

/-- The files written so far, and every diagnostic of the land cover and of those files. -/
structure Report where
  written : List Path := []
  diagnostics : Diagnostics := []
  deriving DecidableEq

namespace Report

def warningCount (r : Report) : Nat := Diagnostics.warningCount r.diagnostics

/-- Adds a shader that was written. -/
def add (r : Report) (path : Path) (s : Shader) : Report :=
  ⟨r.written ++ [path], Diagnostics.extend r.diagnostics s.diagnostics⟩

end Report

namespace Shader

/-- What is logged when the shader is written. -/
def writtenRecords (s : Shader) (path : Path) : List Record :=
  [⟨.info, .generation, "Wrote " ++ path.text ++ " (" ++ s.name ++ ", fingerprint "
      ++ Fingerprint.text s.fingerprint ++ ")"⟩,
    ⟨.debug, .generation, toString s.diagnostics.length ++ " diagnostic(s) for " ++ s.name⟩]

end Shader

variable {m : Type → Type} [Monad m] [Storage m] [Journal m]

namespace Output

/-- Writes files into a directory. The report tells what was done, also after a failure. -/
def writeFiles (directory : Path) (report : Report) :
    List (String × Shader) → m (Report × Except GenerationError Unit)
  | [] => return (report, .ok ())
  | (name, shader) :: rest => do
    let path := directory.join (.ofText name)
    match ← Storage.writeText path shader.source with
    | .error e => return (report, .error (.write path e))
    | .ok () =>
      (shader.writtenRecords path).forM Journal.note
      writeFiles directory (report.add path shader) rest

/-- Generates and writes every shader of a land cover into a directory, which is made if missing. -/
def writeAll (cover : LandCover) (coverage : Option Coverage) (o : ShaderOptions)
    (directory : Path) (report : Report) : m (Report × Except GenerationError Unit) := do
  match ← Storage.makeDirs directory with
  | .error e => return (report, .error (.write directory e))
  | .ok () =>
    let generated ← (cover.generate coverage o).tell
    writeFiles directory report (files generated)

end Output

namespace GeneratorConfig

def options (c : GeneratorConfig) : ShaderOptions := ⟨c.version, c.namePrefix⟩

/-- The images next to a manifest. -/
def imagesBeside (manifest : Path) : ImageLoader (StateT ImageCache m) := fun url => do
  match ← ImageCache.load ((manifest.parent?).getD (.ofText ".")) url with
  | .ok image => return .ok image
  | .error e => return .error e.text

/-- What becomes of the report of a generation in which everything was written. -/
def verdict (c : GeneratorConfig) (report : Report) : Except GenerationError Report :=
  if c.denyWarnings ∧ 0 < report.warningCount then .error (.warningsDenied report.warningCount)
  else .ok report

/-- Generates what the settings ask for, whatever warnings that raises. -/
def produce (c : GeneratorConfig) : m (Except GenerationError Report) := do
  match c.manifest with
  | none => return .error .noManifest
  | some file =>
    match ← Manifest.load file with
    | .error e => return .error (.manifest e)
    | .ok manifest =>
      let report : Report := {}
      let ((built, raised), _) ←
        (LandCover.configure (imagesBeside file) manifest report.diagnostics).run {}
      match built with
      | .error e => return .error (.duplicateResource e)
      | .ok cover =>
        let (report, outcome) ← Output.writeAll cover (some manifest.coverage) c.options
          c.outputDir { report with diagnostics := raised }
        match outcome with
        | .error e => return .error e
        | .ok () => return .ok report

/-- Generates what the settings ask for, unless they deny the warnings that it raised. -/
def run (c : GeneratorConfig) : m (Except GenerationError Report) := do
  match ← c.produce with
  | .error e => return .error e
  | .ok report => return c.verdict report

end GeneratorConfig

end Groundcover
