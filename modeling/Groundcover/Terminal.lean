import Groundcover.CommandLine

/-!
Invocations in memory: on a disk and a terminal that are values.
-/

namespace Groundcover

/-- What an invocation showed. The log file, if there is one, holds the records that were shown. -/
structure Terminal where
  filter : Option Filter := none
  logFile : Option Path := none
  records : List Record := []
  printed : List String := []
  complaints : List String := []
  deriving DecidableEq

namespace Terminal

/-- Shows a record if the log is started and its filter admits the record. -/
def log (t : Terminal) (r : Record) : Terminal :=
  if t.filter.any (·.admits r) then { t with records := t.records ++ [r] } else t

instance : Journal (StateM Terminal) where
  note r := modify (·.log r)

instance : Console (StateM Terminal) where
  print text := modify fun t => { t with printed := t.printed ++ [text] }
  complain text := modify fun t => { t with complaints := t.complaints ++ [text] }
  startLog filter file := modify fun t => { t with filter := some filter, logFile := file }

end Terminal

/-- What is left after an invocation. -/
structure Aftermath where
  exitCode : UInt32
  disk : Disk
  terminal : Terminal
  deriving DecidableEq

/-- One invocation on a disk. -/
def Disk.invoke (d : Disk) (env : Environment) (arguments : List (List UInt8)) : Aftermath :=
  let ((code, disk), terminal) :=
    ((CommandLine.invoke env arguments : StateT Disk (StateM Terminal) UInt32).run d).run {}
  ⟨code, disk, terminal⟩

end Groundcover
