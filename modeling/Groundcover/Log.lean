/-!
Log records, and computations that write some. Records are values: what a computation logs is part
of its answer, in the order of writing.
-/

namespace Groundcover

/-- How grave a record is. -/
inductive Level
  | error
  | warn
  | info
  | debug
  deriving DecidableEq, Repr

namespace Level

/-- The name that records carry. -/
def name : Level → String
  | error => "ERROR"
  | warn => "WARN"
  | info => "INFO"
  | debug => "DEBUG"

/-- A filter that admits verbosity `n` lets a level of verbosity at most `n` through. -/
def verbosity : Level → Nat
  | error => 1
  | warn => 2
  | info => 3
  | debug => 4

end Level

/-- The part of the program that wrote a record. -/
inductive Origin
  | command
  | generation
  | config
  | manifest
  | landCover
  | library
  | legend
  | tables
  | diagnostic
  | loader
  deriving DecidableEq, Repr

/-- The target that filters and readers of the log see. -/
def Origin.target : Origin → String
  | command => "nebula_landcover_gen"
  | generation => "nebula_landcover_gen::generate"
  | config => "nebula_config::config"
  | manifest => "nebula_landcover::manifest"
  | landCover => "nebula_landcover::landcover"
  | library => "nebula_landcover::library"
  | legend => "nebula_landcover::legend"
  | tables => "nebula_landcover::tables"
  | diagnostic => "nebula_landcover::diagnostic"
  | loader => "nebula_landcover::loader"

/-- The fields of a record. Most parts also state where in them a record was written. -/
def Origin.fields : Origin → List String
  | command | generation => ["message"]
  | _ => ["message", "log.target", "log.module_path", "log.file", "log.line"]

/-- One line of the log. -/
structure Record where
  level : Level
  origin : Origin
  text : String
  deriving DecidableEq, Repr

/-- A value together with the records written on the way to it. -/
structure Logged (α : Type) where
  value : α
  records : List Record := []

namespace Logged

variable {α β : Type}

instance : Monad Logged where
  pure a := ⟨a, []⟩
  bind x f := ⟨(f x.value).value, x.records ++ (f x.value).records⟩

@[simp] theorem value_pure (a : α) : (pure a : Logged α).value = a := rfl

@[simp] theorem records_pure (a : α) : (pure a : Logged α).records = [] := rfl

@[simp] theorem value_bind (x : Logged α) (f : α → Logged β) :
    (x >>= f).value = (f x.value).value := rfl

@[simp] theorem records_bind (x : Logged α) (f : α → Logged β) :
    (x >>= f).records = x.records ++ (f x.value).records := rfl

/-- A computation on every element, in order. -/
def forList (f : α → Logged β) (xs : List α) : Logged (List β) :=
  ⟨xs.map fun a => (f a).value, xs.flatMap fun a => (f a).records⟩

end Logged

/-- A computation that can log as it goes. -/
class Journal (m : Type → Type) where
  note : Record → m Unit

instance : Journal Logged where
  note r := ⟨(), [r]⟩

instance {σ : Type} {m : Type → Type} [Monad m] [Journal m] : Journal (StateT σ m) where
  note r := StateT.lift (Journal.note r)

/-- Hands the value on after its records are written. -/
def Logged.tell {m : Type → Type} [Monad m] [Journal m] {α : Type} (x : Logged α) : m α := do
  x.records.forM Journal.note
  return x.value

end Groundcover
