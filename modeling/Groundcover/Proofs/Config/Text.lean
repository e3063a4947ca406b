import Groundcover.Config.Printer
import Groundcover.Config.Reader
import Groundcover.Proofs.Document.Number
import Groundcover.Proofs.Document.Record
import Groundcover.Proofs.Path

/-!
Configurations read back from their text. Whatever the settings are, what was printed of them is
read as those settings again, provided that their paths are text.
-/

namespace Groundcover

open Document Document.Reader

namespace Config

/-- The indentation of a section, and of the settings in it. -/
def sectionIndent : List Char := List.replicate 4 ' '

def settingIndent : List Char := List.replicate 8 ' '

theorem indents_are_space :
    (∀ c ∈ sectionIndent, isSpace c = true) ∧ ∀ c ∈ settingIndent, isSpace c = true :=
  ⟨fun _ hc => List.eq_of_mem_replicate hc ▸ rfl, fun _ hc => List.eq_of_mem_replicate hc ▸ rfl⟩

/-- A setting as the line that it is printed on. -/
def printed {σ : Type} (setting : Setting σ) : String :=
  settingLine setting.name (.ofList setting.value)

/-- Lines, each behind a line break. -/
def broken (lines : List String) : List Char := lines.flatMap fun line => '\n' :: line.toList

theorem broken_printed {σ : Type} (settings : List (Setting σ)) :
    broken (settings.map printed) = settings.flatMap (Setting.line settingIndent) := by
  have hline (setting : Setting σ) :
      '\n' :: (printed setting).toList = setting.line settingIndent := by
    simp [printed, settingLine, Setting.line, settingIndent, List.replicate]
  rw [broken, List.flatMap_map]
  exact congrArg (settings.flatMap ·) (funext hline)

theorem intercalate_lines (first : String) (lines : List String) :
    ("\n".intercalate (first :: lines)).toList = first.toList ++ broken lines := by
  rw [String.toList_intercalate, List.map_cons]
  induction lines generalizing first with
  | nil => simp [broken]
  | cons line lines ih =>
    rw [List.map_cons, List.intercalate_cons_cons, ih]
    simp [broken]

theorem broken_append (lines more : List String) :
    broken (lines ++ more) = broken lines ++ broken more :=
  List.flatMap_append

/-- A section is a setting whose value is a record of its own. -/
theorem broken_section {σ τ : Type} (name : String) (settings : List (Setting σ)) (set : τ → τ) :
    broken (sectionLines name (settings.map printed)) =
      Setting.line sectionIndent ⟨name, block settingIndent sectionIndent settings, set⟩ := by
  have hsettings := broken_printed settings
  rw [broken] at hsettings
  simp [sectionLines, broken, hsettings, Setting.line, block, sectionIndent, List.replicate]

end Config

/-- What is printed for a text begins with its quote. -/
theorem solid_of_quote (text : String) (rest : List Char) :
    Solid ((Config.quoted text).toList ++ rest) := by
  rw [Config.quoted, String.toList_ofList, Text.Escape.quote]
  exact solid_cons (by decide) (by decide)

theorem quoted_apply (text : String) (rest : List Char) :
    Reader.text {} ((Config.quoted text).toList ++ rest) = .ok (text, rest) := by
  rw [Config.quoted, String.toList_ofList]
  exact text_apply text {} rest

theorem path_apply {p : Path} {text : String} (h : p.text? = some text) (rest : List Char) :
    GeneratorConfig.path {} ((Config.quoted text).toList ++ rest) = .ok (p, rest) := by
  have hpath : Path.ofText text = p := by rw [Path.ofText, Text.Utf8.encode_of_decode h]
  simp [GeneratorConfig.path, quoted_apply, hpath]

/-- A path that may be missing is read back. -/
theorem optional_path_apply {p : Option Path} {text : String}
    (h : Config.optionalPathText? p = some text) (rest : List Char) :
    Solid (text.toList ++ ',' :: rest) ∧
      option (plain GeneratorConfig.path) {} (text.toList ++ ',' :: rest) =
        .ok (p, ',' :: rest) := by
  cases p with
  | none =>
    obtain rfl : "None" = text := Option.some.inj h
    exact ⟨solid_cons (by decide) (by decide), option_none _ {} rest⟩
  | some p =>
    obtain ⟨name, hname, rfl⟩ := Option.map_eq_some_iff.mp h
    have hsome := option_some (solid_of_quote name _) (path_apply hname (')' :: ',' :: rest))
    have htext : ("Some(" ++ Config.quoted name ++ ")").toList ++ ',' :: rest =
        "Some(".toList ++ ((Config.quoted name).toList ++ ')' :: ',' :: rest) := by simp
    rw [htext]
    exact ⟨solid_cons (by decide) (by decide), hsome⟩

theorem word_solid (n : UInt32) (rest : List Char) : Solid ((toString n.toNat).toList ++ rest) := by
  rw [Nat.toString_eq_ofList_toDigits, String.toList_ofList]
  cases hdigits : Nat.toDigits 10 n.toNat with
  | nil => exact absurd hdigits Nat.toDigits_ne_nil
  | cons c digits =>
    have hdigit : c.isDigit = true :=
      Nat.isDigit_of_mem_toDigits (by decide) (by decide) (hdigits ▸ List.mem_cons_self)
    obtain ⟨hspace, hslash⟩ := solid_char hdigit (by decide)
    exact solid_cons hspace hslash

theorem bool_solid (answer : Bool) (rest : List Char) :
    Solid ((Config.boolText answer).toList ++ rest) := by
  cases answer <;> exact solid_cons (by decide) (by decide)

namespace GeneratorConfig

/-- The settings of a generator in print. -/
def settings (c : GeneratorConfig) (manifest outputDir : String) : List (Setting GeneratorConfig) :=
  [.of "manifest" (fun v s => { s with manifest := v }) c.manifest manifest.toList,
    .of "output_dir" (fun v s => { s with outputDir := v }) c.outputDir
      (Config.quoted outputDir).toList,
    .of "glsl_version" (fun v s => { s with version := v }) c.version
      (toString c.version.toNat).toList,
    .of "symbol_prefix" (fun v s => { s with namePrefix := v }) c.namePrefix
      (Config.quoted c.namePrefix).toList,
    .of "deny_warnings" (fun v s => { s with denyWarnings := v }) c.denyWarnings
      (Config.boolText c.denyWarnings).toList]

theorem settings_fit {c : GeneratorConfig} {manifest outputDir : String}
    (hmanifest : Config.optionalPathText? c.manifest = some manifest)
    (houtput : c.outputDir.text? = some outputDir) :
    ∀ setting ∈ c.settings manifest outputDir, setting.Fits fields := by
  have hpath := optional_path_apply hmanifest
  simp only [settings, List.forall_mem_cons]
  refine ⟨.of_free rfl rfl (fun rest => (hpath rest).1) fun rest => (hpath rest).2,
    .of_free rfl rfl (fun rest => solid_of_quote outputDir _) fun rest => path_apply houtput _,
    .of_free rfl rfl (fun rest => word_solid c.version _) fun rest =>
      Number.word_of_digits c.version rest,
    .of_free rfl rfl (fun rest => solid_of_quote c.namePrefix _) fun rest =>
      quoted_apply c.namePrefix _,
    .of_free rfl rfl (fun rest => bool_solid c.denyWarnings _) fun rest =>
      bool_apply c.denyWarnings {} rest, List.forall_mem_nil _⟩

/-- What is printed for a generator are its settings. -/
theorem generator_lines {c : GeneratorConfig} {lines : List String}
    (h : Config.generatorLines? c = some lines) :
    ∃ manifest outputDir, Config.optionalPathText? c.manifest = some manifest ∧
      c.outputDir.text? = some outputDir ∧
      lines = (c.settings manifest outputDir).map Config.printed := by
  obtain ⟨manifest, hmanifest, h⟩ := Option.bind_eq_some_iff.mp h
  obtain ⟨outputDir, houtput, h⟩ := Option.bind_eq_some_iff.mp h
  refine ⟨manifest, outputDir, hmanifest, houtput, ?_⟩
  rw [← Option.some.inj h]
  simp only [settings, List.map_cons, List.map_nil, Config.printed, Setting.of,
    String.ofList_toList]

end GeneratorConfig

namespace DebugConfig

def settings (c : DebugConfig) : List (Setting DebugConfig) :=
  [.of "log_level" (fun v s => { s with logLevel := v }) c.logLevel
      (Config.quoted c.logLevel).toList,
    .of "log_to_file" (fun v s => { s with logToFile := v }) c.logToFile
      (Config.boolText c.logToFile).toList]

theorem settings_fit (c : DebugConfig) : ∀ setting ∈ c.settings, setting.Fits fields := by
  simp only [settings, List.forall_mem_cons]
  exact ⟨.of_free rfl rfl (fun rest => solid_of_quote c.logLevel _) fun rest =>
      quoted_apply c.logLevel _,
    .of_free rfl rfl (fun rest => bool_solid c.logToFile _) fun rest =>
      bool_apply c.logToFile {} rest, List.forall_mem_nil _⟩

theorem debug_lines (c : DebugConfig) : Config.debugLines c = c.settings.map Config.printed := by
  simp only [Config.debugLines, settings, List.map_cons, List.map_nil, Config.printed, Setting.of,
    String.ofList_toList]

end DebugConfig

namespace Config

/-- The sections of a configuration in print, each a record of its own. -/
def settings (c : Config) (manifest outputDir : String) : List (Setting Config) :=
  [.of "generator" (fun v s => { s with generator := v }) c.generator
      (block settingIndent sectionIndent (c.generator.settings manifest outputDir)),
    .of "debug" (fun v s => { s with debug := v }) c.debug
      (block settingIndent sectionIndent c.debug.settings)]

theorem block_solid {σ : Type} (inner outer : List Char) (settings : List (Setting σ))
    (rest : List Char) : Solid (block inner outer settings ++ rest) :=
  solid_cons (by decide) (by decide)

theorem settings_fit {c : Config} {manifest outputDir : String}
    (hmanifest : optionalPathText? c.generator.manifest = some manifest)
    (houtput : c.generator.outputDir.text? = some outputDir) :
    ∀ setting ∈ c.settings manifest outputDir, setting.Fits fields := by
  obtain ⟨hsection, hsetting⟩ := indents_are_space
  have hgenerator := record_of_block hsetting hsection "GeneratorConfig" {}
    (GeneratorConfig.settings_fit hmanifest houtput)
    (by simp [GeneratorConfig.settings, Setting.of]) (by decide)
  have hdebug := record_of_block hsetting hsection "DebugConfig" {}
    c.debug.settings_fit (by simp [DebugConfig.settings, Setting.of]) (by decide)
  simp only [settings, List.forall_mem_cons]
  exact ⟨.of_free rfl rfl (fun rest => block_solid _ _ _ _) fun rest => hgenerator (',' :: rest),
    .of_free rfl rfl (fun rest => block_solid _ _ _ _) fun rest => hdebug (',' :: rest),
    List.forall_mem_nil _⟩

theorem text_is_block {c : Config} {text : String} (h : c.text? = some text) :
    ∃ manifest outputDir, optionalPathText? c.generator.manifest = some manifest ∧
      c.generator.outputDir.text? = some outputDir ∧
      text.toList = block sectionIndent [] (c.settings manifest outputDir) := by
  obtain ⟨lines, hlines, htext⟩ := Option.bind_eq_some_iff.mp h
  obtain ⟨manifest, outputDir, hmanifest, houtput, rfl⟩ := GeneratorConfig.generator_lines hlines
  refine ⟨manifest, outputDir, hmanifest, houtput, ?_⟩
  have hgenerator := broken_section "generator" (c.generator.settings manifest outputDir)
    fun s : Config => { s with generator := c.generator }
  have hdebug := broken_section "debug" c.debug.settings
    fun s : Config => { s with debug := c.debug }
  rw [← Option.some.inj htext, c.debug.debug_lines, List.singleton_append, List.cons_append,
    List.cons_append, intercalate_lines, broken_append, broken_append, hgenerator, hdebug]
  simp [block, settings, Setting.of, broken]

/-- What was printed of a configuration is read as that configuration. -/
theorem of_text_of_text {c : Config} {text : String} (h : c.text? = some text) :
    Config.ofText text = .ok c := by
  obtain ⟨manifest, outputDir, hmanifest, houtput, htext⟩ := text_is_block h
  have hread : reader false {} text.toList = .ok (c, []) := by
    have hblock := record_of_block indents_are_space.1 (List.forall_mem_nil _)
      "Config" {} (settings_fit hmanifest houtput) (by simp [settings, Setting.of]) (by decide) []
    rw [List.append_nil, ← htext] at hblock
    exact hblock
  have hsolid := block_solid sectionIndent [] (c.settings manifest outputDir) []
  rw [List.append_nil, ← htext] at hsolid
  have hstart : blank {} text.toList = .ok ((), text.toList) := blank_solid hsolid
  have hattributes : attributes (text.toList.length + 1) {} {} text.toList =
      .ok ({}, text.toList) := by
    rw [htext]
    simp [attributes, block, char_other]
  have hend : blank {} [] = .ok ((), []) := blank_solid solid_nil
  simp only [ofText, Document.read, bind_apply, hstart, hattributes, hread, hend, pure_apply]

end Config

end Groundcover
