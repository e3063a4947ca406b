import Groundcover.Config
import Groundcover.Text.Escape

/-!
Configurations as text: one setting a line, sections indented, everything written out. A path that
is no text cannot be written.
-/

namespace Groundcover.Config

def quoted (text : String) : String := .ofList (Text.Escape.quote text.toList)

def boolText (b : Bool) : String := if b then "true" else "false"

/-- The text of a path that may be missing, if the path is text. -/
def optionalPathText? : Option Path → Option String
  | none => some "None"
  | some p => p.text?.map fun text => "Some(" ++ quoted text ++ ")"

/-- A setting with its value. -/
def settingLine (name value : String) : String := "        " ++ name ++ ": " ++ value ++ ","

def sectionLines (name : String) (settings : List String) : List String :=
  ("    " ++ name ++ ": (") :: settings ++ ["    ),"]

def generatorLines? (c : GeneratorConfig) : Option (List String) := do
  let manifest ← optionalPathText? c.manifest
  let outputDir ← c.outputDir.text?
  return [settingLine "manifest" manifest, settingLine "output_dir" (quoted outputDir),
    settingLine "glsl_version" (toString c.version.toNat),
    settingLine "symbol_prefix" (quoted c.namePrefix),
    settingLine "deny_warnings" (boolText c.denyWarnings)]

def debugLines (c : DebugConfig) : List String :=
  [settingLine "log_level" (quoted c.logLevel), settingLine "log_to_file" (boolText c.logToFile)]

/-- The document of a configuration. -/
def text? (c : Config) : Option String := do
  let generator ← generatorLines? c.generator
  return "\n".intercalate (["("] ++ sectionLines "generator" generator
    ++ sectionLines "debug" (debugLines c.debug) ++ [")"])

end Groundcover.Config
