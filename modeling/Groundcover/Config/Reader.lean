import Groundcover.Config
import Groundcover.Document.Record

/-!
Configurations as RON documents.
-/

namespace Groundcover

open Document Document.Reader

namespace GeneratorConfig

def path : Reader Path := do return .ofText (← text)

def fields : List (RecordField GeneratorConfig) :=
  [.free "manifest" (option (plain path)) fun v c => { c with manifest := v },
    .free "output_dir" path fun v c => { c with outputDir := v },
    .free "glsl_version" word32 fun v c => { c with version := v },
    .free "symbol_prefix" text fun v c => { c with namePrefix := v },
    .free "deny_warnings" bool fun v c => { c with denyWarnings := v }]

def reader (bare : Bool) : Reader GeneratorConfig := record "GeneratorConfig" fields {} bare

end GeneratorConfig

namespace DebugConfig

def fields : List (RecordField DebugConfig) :=
  [.free "log_level" text fun v c => { c with logLevel := v },
    .free "log_to_file" bool fun v c => { c with logToFile := v }]

def reader (bare : Bool) : Reader DebugConfig := record "DebugConfig" fields {} bare

end DebugConfig

namespace Config

def fields : List (RecordField Config) :=
  [.free "generator" (GeneratorConfig.reader false) fun v c => { c with generator := v },
    .free "debug" (DebugConfig.reader false) fun v c => { c with debug := v }]

def reader (bare : Bool) : Reader Config := record "Config" fields {} bare

/-- The configuration that a document holds. -/
def ofText (text : String) : Except Error Config := Document.read (reader false) text

end Config

end Groundcover
