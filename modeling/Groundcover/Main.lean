import Groundcover.CommandLine
import Groundcover.Log.Line

/-!
The program: invocations on the file system and the console of the machine that runs it.
-/

namespace Groundcover

/-- The log of a running invocation. -/
structure RunningLog where
  begun : Nat
  filter : Option Filter := none
  file : Option IO.FS.Handle := none

/-- Invocations with side effects. -/
abbrev Program := ReaderT (IO.Ref RunningLog) IO

namespace Program

/-- The number of a failure, which may be reported as a negative one. -/
def number (code : UInt32) : UInt32 := min code (0 - code)

/-- The cause of a failure that the machine reports. -/
def causeOf (e : IO.Error) : OsError :=
  match e with
  | .noFileOrDirectory .. => .notFound
  | .alreadyExists .. => .alreadyExists
  | .inappropriateType _ code _ => if number code = 20 then .notDirectory else .isDirectory
  | .invalidArgument _ code details =>
    if number code = 36 then .nameTooLong else .other details
  | e => .other (toString e)

/-- An action on a path, with its failure as a value. -/
def attempt {α : Type} (p : Path) (action : String → IO α) : IO (Except OsError α) :=
  match p.text? with
  | none => return .error (.other "the path is not text")
  | some text => do
    try return .ok (← action text)
    catch e => return .error (causeOf e)

instance : Storage Program where
  openNode p := do
    match ← (attempt p fun text => IO.FS.readBinFile text : IO _) with
    | .ok content => return .ok (.file content.data.toList)
    | .error .isDirectory => return .ok .directory
    | .error e => return .error e
  makeDir p := (attempt p fun text => IO.FS.createDir text : IO _)
  write p content := (attempt p fun text => IO.FS.writeBinFile text ⟨⟨content⟩⟩ : IO _)

instance : Journal Program where
  note r := do
    let log ← (← read).get
    if log.filter.any (·.admits r) then
      let time := Log.uptime ((← IO.monoNanosNow) - log.begun)
      IO.println (time ++ " " ++ r.consoleLine)
      if let some file := log.file then file.putStrLn (r.jsonLine time)

/-- The handle of a log file, if it can be opened. -/
def openLogFile (p : Path) : IO (Option IO.FS.Handle) := do
  match ← attempt p fun text => IO.FS.Handle.mk text .append with
  | .ok file => return some file
  | .error _ => return none

instance : Console Program where
  print text := (IO.print text : IO Unit)
  complain text := (IO.eprintln text : IO Unit)
  startLog filter file := do
    let handle ← match file with
      | some p => (openLogFile p : IO _)
      | none => pure none
    (← read).modify fun log => { log with filter := some filter, file := handle }

/-- What surrounds this process. -/
def environment : IO Environment := do
  return { home := (← IO.getEnv "HOME").map .ofText
           configHome := (← IO.getEnv "XDG_CONFIG_HOME").map .ofText
           filter := ← IO.getEnv "RUST_LOG"
           keepsLog := true }

end Program

end Groundcover

def main (arguments : List String) : IO UInt32 := do
  let log ← IO.mkRef ({ begun := ← IO.monoNanosNow } : Groundcover.RunningLog)
  let environment ← Groundcover.Program.environment
  (Groundcover.CommandLine.invoke environment (arguments.map Groundcover.Text.Utf8.encode) :
    Groundcover.Program UInt32).run log
