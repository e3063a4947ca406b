import Groundcover.Arguments
import Groundcover.Config.File
import Groundcover.Generation
import Groundcover.Log.Filter

/-!
The command line: one invocation reads its arguments and the configuration, starts the log and runs
the generator. Nothing is logged before the log is started.
-/

namespace Groundcover

/-- What surrounds an invocation. -/
structure Environment where
  home : Option Path := none
  configHome : Option Path := none
  filter : Option String := none
  keepsLog : Bool := false
  deriving DecidableEq

/-- Where an invocation speaks to. -/
class Console (m : Type → Type) where
  print : String → m Unit
  complain : String → m Unit
  startLog : Filter → Option Path → m Unit

instance {σ : Type} {m : Type → Type} [Monad m] [Console m] : Console (StateT σ m) where
  print text := StateT.lift (Console.print text)
  complain text := StateT.lift (Console.complain text)
  startLog filter file := StateT.lift (Console.startLog filter file)

namespace Environment

/-- The directory of configurations: where the environment says, if absolute, else below home. -/
def configRoot? (env : Environment) : Option Path :=
  match env.configHome.filter Path.isAbsolute with
  | some root => some root
  | none => env.home.map fun home => home.join (.ofText ".config")

/-- The configuration directory of an invocation. -/
def configDir (env : Environment) (a : Arguments) : Except ConfigError Path :=
  match a.configDir.or (env.configRoot?.map fun root => root.join (.ofText "nebula-landcover")) with
  | some directory => .ok directory
  | none => .error .noDirectory

end Environment

namespace CommandLine

def help : String := unlines
  ["Generate land cover GLSL from a manifest", "", "Usage: nebula-landcover-gen [OPTIONS]", "",
    "Options:",
    "      --manifest <MANIFEST>          Land cover manifest (RON)",
    "      --out-dir <OUT_DIR>            Output directory for generated shaders",
    "      --glsl-version <GLSL_VERSION>  GLSL version of generated sources",
    "      --prefix <PREFIX>              Prefix for every generated identifier",
    "      --deny-warnings                Exit with an error if any warning was raised",
    "      --log-level <LOG_LEVEL>        Log level (error, warn, info, debug, trace)",
    "      --config <CONFIG>              Path to config directory",
    "  -h, --help                         Print help"]

/-- What to say about arguments that are refused. -/
def refusal : ArgumentError → String
  | .displayHelp => help
  | .unknownArgument => "error: unexpected argument"
  | .invalidValue => "error: a value is required for an option but none was supplied"
  | .valueValidation => "error: invalid value for an option"
  | .invalidUtf8 => "error: invalid UTF-8 was detected in one or more arguments"
  | .argumentConflict => "error: an option cannot be used multiple times"
  | .tooManyValues => "error: unexpected value for an option"

variable {m : Type → Type} [Monad m] [Storage m] [Journal m] [Console m]

/-- Makes an empty log file, if that is possible. -/
def openLog (directory : Path) : m (Option Path) := do
  match ← Storage.makeDirs directory with
  | .error _ => return none
  | .ok () =>
    let file := directory.join (.ofText "nebula-landcover.log")
    match ← Storage.writeText file "" with
    | .error _ => return none
    | .ok () => return some file

/-- The filter of the environment, if it is one, else that of the configuration. -/
def logFilter (env : Environment) (c : Config) : m Filter := do
  match env.filter.bind Filter.ofText? with
  | some f => return f
  | none =>
    let text := Filter.textOfLevel (some c.debug.logLevel)
    (Filter.complaints text).forM Console.complain
    return Filter.ofText text

/-- Starts the log on the console, and in a file if one is kept. -/
def startLog (env : Environment) (c : Config) (directory : Path) : m Unit := do
  let filter ← logFilter env c
  let file ← if env.keepsLog || c.debug.logToFile then openLog directory else pure none
  Console.startLog filter file

/-- The configuration of a directory; one that cannot be had is replaced by the defaults. -/
def configuration (directory : Path) : m Config := do
  match ← Config.loadOrCreate directory with
  | .ok c => return c
  | .error e =>
    Console.complain ("Failed to load config: " ++ e.text ++ ", using defaults")
    return {}

/-- Runs the generator and logs how it ended. The answer tells whether it succeeded. -/
def generate (c : GeneratorConfig) : m Bool := do
  match ← c.run with
  | .error e =>
    Journal.note ⟨.error, .command, e.text⟩
    return false
  | .ok report =>
    if 0 < report.warningCount then
      Journal.note ⟨.warn, .command,
        toString report.warningCount ++ " configuration warning(s); see log for details"⟩
    Journal.note ⟨.info, .command,
      "Generated " ++ toString report.written.length ++ " shader(s) into " ++ c.outputDir.text⟩
    return true

/-- An invocation with arguments that are in order. -/
def execute (env : Environment) (a : Arguments) : m UInt32 := do
  match env.configDir a with
  | .error e =>
    Console.complain e.text
    return 1
  | .ok directory =>
    let c := (← configuration directory).override a
    startLog env c (directory.join (.ofText "logs"))
    return if ← generate c.generator then 0 else 1

/-- One invocation. The answer is the exit code. -/
def invoke (env : Environment) (arguments : List (List UInt8)) : m UInt32 := do
  match Arguments.ofList arguments with
  | .ok a => execute env a
  | .error .displayHelp =>
    Console.print help
    return 0
  | .error e =>
    Console.complain (refusal e)
    return 2

end CommandLine

end Groundcover
