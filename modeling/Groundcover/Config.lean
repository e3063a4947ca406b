import Groundcover.Path

/-!
Settings of the generator. Every setting has a default, so a configuration may leave out any of
them; arguments given for one invocation take the place of settings one by one.
-/

namespace Groundcover

/-- What to generate from which manifest, and where to put it. -/
structure GeneratorConfig where
  manifest : Option Path := none
  outputDir : Path := .ofText "shaders"
  version : UInt32 := 330
  namePrefix : String := ""
  denyWarnings : Bool := false
  deriving DecidableEq

/-- What is logged and where. -/
structure DebugConfig where
  logLevel : String := "info"
  logToFile : Bool := false
  deriving DecidableEq

structure Config where
  generator : GeneratorConfig := {}
  debug : DebugConfig := {}
  deriving DecidableEq

/-- What one invocation states. -/
structure Arguments where
  manifest : Option Path := none
  outputDir : Option Path := none
  version : Option UInt32 := none
  namePrefix : Option String := none
  denyWarnings : Bool := false
  logLevel : Option String := none
  configDir : Option Path := none
  deriving DecidableEq

/-- The settings in force. Warnings are denied if either side denies them. -/
def Config.override (c : Config) (a : Arguments) : Config :=
  { generator :=
      { manifest := a.manifest.or c.generator.manifest
        outputDir := a.outputDir.getD c.generator.outputDir
        version := a.version.getD c.generator.version
        namePrefix := a.namePrefix.getD c.generator.namePrefix
        denyWarnings := a.denyWarnings || c.generator.denyWarnings }
    debug := { c.debug with logLevel := a.logLevel.getD c.debug.logLevel } }

end Groundcover
