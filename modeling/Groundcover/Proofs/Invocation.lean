import Groundcover.Proofs.Config.File
import Groundcover.Proofs.Playback
import Groundcover.Proofs.Repetition

/-!
Whole invocations. An invocation settles its configuration, opens the log and generates; whatever
fails on the way, nothing that it writes has the name of the configuration file.
-/

namespace Groundcover

open Execution Disk Groundcover.Path

section Frames

variable {d e f : Disk} {name : List UInt8} {directory file : Path} {node : Node}

/-- Files of a name are as they were; new at places of that name are directories at most. -/
structure Disk.Spares (name : List UInt8) (d e : Disk) : Prop where
  keeps : d.Keeps e
  places : ∀ outer, e.at? (name :: outer) = d.at? (name :: outer) ∨
    d.at? (name :: outer) = none ∧ e.at? (name :: outer) = some .directory

namespace Disk.Spares

theorem refl (name : List UInt8) (d : Disk) : d.Spares name d := ⟨.refl d, fun _ => .inl rfl⟩

theorem trans (h : d.Spares name e) (h' : e.Spares name f) : d.Spares name f := by
  refine ⟨h.keeps.trans h'.keeps, fun outer => ?_⟩
  rcases h'.places outer with hsame' | ⟨hnone', hdir'⟩
  · rw [hsame']
    exact h.places outer
  · rcases h.places outer with hsame | ⟨-, hdir⟩
    · exact .inr ⟨hsame ▸ hnone', hdir'⟩
    · rw [hnone'] at hdir
      cases hdir

theorem of_grows {paths : List Path} (h : Grows paths d e) : d.Spares name e := by
  refine ⟨h.keeps, fun outer => (h.places _).imp_right ?_⟩
  rintro ⟨hnone, hdir, -⟩
  exact ⟨hnone, hdir⟩

/-- A file that is found by a path of that name is found with the same content. -/
theorem lookup (h : d.Spares file.bytes e) (hfile : IsPlainName file.bytes)
    (hfound : d.lookup (directory.join file) = .ok node) :
    e.lookup (directory.join file) = .ok node := by
  obtain ⟨l, hlocate, hat⟩ := lookup_eq_ok.mp hfound
  obtain ⟨outer, -, -, rfl⟩ := locate_file hfile hlocate
  refine lookup_eq_ok.mpr ⟨_, h.keeps.locate hlocate, ?_⟩
  rcases h.places outer with hsame | ⟨hnone, -⟩
  · rw [hsame, hat]
  · rw [hat] at hnone
    cases hnone

/-- A file of that name was there before. -/
theorem file_before (h : d.Spares name e) {outer : Location} {content : List UInt8}
    (hat : e.at? (name :: outer) = some (.file content)) :
    d.at? (name :: outer) = some (.file content) := by
  rcases h.places outer with hsame | ⟨-, hdir⟩
  · rw [← hsame, hat]
  · rw [hat] at hdir
    cases hdir

end Disk.Spares

theorem Storage.make_dirs_spares (name : List UInt8) (p : Path) (d : Disk) :
    d.Spares name (exec (makeDirs p : StateT Disk Logged _) d).2 := by
  obtain ⟨answer, e, hexec, hgrows, -⟩ := make_dirs_spec p d
  rw [hexec]
  exact .of_grows hgrows

/-- Writing a file spares the files of other names. -/
theorem Storage.write_text_spares (hfile : IsPlainName file.bytes) (hname : file.bytes ≠ name)
    (directory : Path) (text : String) (d : Disk) :
    d.Spares name (exec (writeText (directory.join file) text : StateT Disk Logged _) d).2 := by
  rcases hwrite : exec (writeText (directory.join file) text : StateT Disk Logged _) d
    with ⟨why | _, e⟩
  · obtain rfl := Output.write_text_error hwrite
    exact .refl name _
  · obtain ⟨hkeeps, l, hlocate, -, hsame⟩ := Output.write_text_ok hwrite
    obtain ⟨place, -, -, rfl⟩ := locate_file hfile hlocate
    refine ⟨hkeeps, fun outer => .inl (hsame _ fun h => hname ?_)⟩
    exact (List.cons.inj h).1.symm

namespace Output

/-- No shader has a file of that name. -/
def Free (name : List UInt8) : Prop :=
  ∀ stem : String, IsStem stem → ∀ kind : FileKind, (Path.ofText (stem ++ kind.suffix)).bytes ≠ name

variable {generated : List LayerShaders} {files : List (String × Shader)}

theorem Written.spares (hfree : Free name) (h : Written (StateT Disk Logged) directory d files e)
    (hsub : ∀ file ∈ files, file ∈ Output.files generated) : d.Spares name e := by
  obtain ⟨hkeeps, hsame⟩ := h.frame
  refine ⟨hkeeps, fun outer => .inl (hsame _ fun file hfile hlocate => ?_)⟩
  obtain ⟨stem, kind, hstem, hname⟩ := file_has_stem generated (hsub file hfile)
  obtain ⟨around, hplace⟩ := place_head (hsub file hfile) hlocate
  refine hfree stem hstem kind ?_
  rw [← hname]
  exact (List.cons.inj hplace).1.symm

/-- Whether all shaders are written or not, files of other names are as they were. -/
theorem write_all_spares (hfree : Free name) (cover : LandCover) (coverage : Option Coverage)
    (o : ShaderOptions) (directory : Path) (report : Report) (d : Disk) :
    d.Spares name
      (exec (writeAll cover coverage o directory report : StateT Disk Logged _) d).2 := by
  have hmade := Storage.make_dirs_spares name directory d
  have hruns := write_all_runs (m := StateT Disk Logged) directory cover coverage o report d
  generalize exec (writeAll cover coverage o directory report : StateT Disk Logged _) d = ran
    at hruns ⊢
  cases hruns with
  | refused made => rwa [made] at hmade
  | @began next middle t done rest outcome made split written ends =>
    rw [made] at hmade
    have hdone : ∀ file ∈ done, file ∈ files (cover.generate coverage o).value :=
      fun file hfile => split ▸ List.mem_append_left rest hfile
    refine (hmade.trans (written.spares hfree hdone)).trans ?_
    cases ends with
    | done => exact .refl name _
    | @failed _ file _ rest first =>
      have hfile : file ∈ files (cover.generate coverage o).value :=
        split ▸ List.mem_append_right done List.mem_cons_self
      obtain ⟨stem, kind, hstem, hname⟩ := file_has_stem _ hfile
      have hspares := Storage.write_text_spares (hname ▸ file_name_is_plain hstem)
        (hname ▸ hfree stem hstem kind) directory file.2.source middle
      rw [place] at first
      rwa [first] at hspares

end Output

/-- A generation spares files that are named unlike those of shaders, however it ends. -/
theorem GeneratorConfig.run_spares (hfree : Output.Free name) (c : GeneratorConfig) (d : Disk) :
    d.Spares name (exec (c.run : StateT Disk Logged _) d).2 := by
  have hproduce : d.Spares name (exec (c.produce : StateT Disk Logged _) d).2 := by
    cases hfile : c.manifest with
    | none => simpa [produce, hfile] using Spares.refl name d
    | some file =>
      obtain ⟨loaded, hload, -⟩ := Manifest.load_spec file d
      rcases loaded with why | manifest
      · simpa [produce, hfile, hload] using Spares.refl name d
      · rcases hconfigure : exec (LandCover.configure (imagesBeside file) manifest [] :
          StateT ImageCache (StateT Disk Logged) _) ({}, d) with ⟨⟨built, raised⟩, cache, reached⟩
        obtain rfl : reached = d := configure_keeps hconfigure
        rcases built with why | cover
        · simpa [produce, hfile, hload, exec_run, hconfigure] using Spares.refl name reached
        · have hwritten := Output.write_all_spares hfree cover (some manifest.coverage) c.options
            c.outputDir ⟨[], raised⟩ reached
          rcases hwrite : exec (Output.writeAll cover (some manifest.coverage) c.options c.outputDir
            ⟨[], raised⟩ : StateT Disk Logged _) reached with ⟨⟨report, why | _⟩, e⟩ <;>
          · rw [hwrite] at hwritten
            simpa [produce, hfile, hload, exec_run, hconfigure, hwrite] using hwritten
  rw [exec_verdict]
  rcases hexec : exec (c.produce : StateT Disk Logged _) d with ⟨why | report, e⟩ <;>
    rwa [hexec] at hproduce

end Frames

section Effects

variable {α β : Type} {d e : Disk} {a : α} {outcome : β × Disk}

/-- What a computation in front of a terminal answers and leaves, whatever was shown before. -/
def Does (x : StateT Disk (StateM Terminal) α) (d : Disk) (outcome : α × Disk) : Prop :=
  ∀ t : Terminal, ((x.run d).run t).1 = outcome

namespace Does

theorem done (a : α) (d : Disk) : Does (pure a) d (a, d) := fun _ => rfl

theorem andThen {x : StateT Disk (StateM Terminal) α} {f : α → StateT Disk (StateM Terminal) β}
    (hx : Does x d (a, e)) (hf : Does (f a) e outcome) : Does (x >>= f) d outcome := by
  intro t
  have hrun : ((x >>= f).run d).run t =
      ((f ((x.run d).run t).1.1).run ((x.run d).run t).1.2).run ((x.run d).run t).2 := rfl
  rw [hrun, hx t]
  exact hf _

/-- What is played in front of a terminal does what it does with a log. -/
theorem of_plays {x : StateT Disk Logged α} {y : StateT Disk (StateM Terminal) α} (h : Plays x y) :
    Does y d (exec x d) := by
  intro t
  rw [← show Playback.play x = y from h]
  rfl

theorem note (r : Record) (d : Disk) : Does (Journal.note r) d ((), d) := fun _ => rfl

theorem complain (text : String) (d : Disk) : Does (Console.complain text) d ((), d) := fun _ => rfl

theorem complaints (texts : List String) (d : Disk) :
    Does (texts.forM Console.complain) d ((), d) := by
  induction texts with
  | nil => exact done () d
  | cons text texts ih => exact (complain text d).andThen ih

end Does

/-- The configuration in the file of a directory, if there is one that can be read. -/
def Disk.config? (d : Disk) (directory : Path) : Option Config :=
  match d.lookup (Config.fileIn directory) with
  | .ok (.file content) =>
    (Text.Utf8.decode? content).bind fun text => (Config.ofText text).toOption
  | _ => none

namespace CommandLine

variable {env : Environment} {c : Config} {directory : Path}

/-- The configuration that is loaded, with the defaults in place of a failure. -/
theorem exec_configuration (directory : Path) (d : Disk) :
    (exec (Config.loadOrCreate directory : StateT Disk Logged _) d).1.toOption.getD {} =
      (d.config? directory).getD {} := by
  rw [Config.exec_load_or_create, config?]
  cases hfound : d.lookup (Config.fileIn directory) with
  | error why =>
    rcases hsave : exec (Config.save {} directory : StateT Disk Logged _) d with ⟨why | _, e⟩ <;>
      rfl
  | ok node =>
    simp only [Config.load, Storage.readText, Storage.readBytes, exec_bind, Storage.exec_open,
      hfound]
    cases node with
    | directory => simp [Except.toOption]
    | file content =>
      cases hdecode : Text.Utf8.decode? content with
      | none => simp [hdecode, Except.toOption]
      | some text => cases hparse : Config.ofText text <;> simp [hdecode, hparse, Except.toOption]

theorem configuration_does (directory : Path) (d : Disk) :
    Does (configuration directory) d ((d.config? directory).getD {},
      (exec (Config.loadOrCreate directory : StateT Disk Logged _) d).2) := by
  have hload := Does.of_plays (d := d) (Config.load_or_create_plays (m := StateT Disk Logged)
    (n := StateT Disk (StateM Terminal)) directory)
  rw [← exec_configuration]
  rcases hexec : exec (Config.loadOrCreate directory : StateT Disk Logged _) d with ⟨why | c, e⟩
  · rw [hexec] at hload
    exact hload.andThen ((Does.complain _ _).andThen (.done _ _))
  · rw [hexec] at hload
    exact hload.andThen (.done _ _)

/-- Settling the filter is nothing but talk. -/
theorem log_filter_does (env : Environment) (c : Config) (d : Disk) :
    ∃ filter, Does (logFilter env c) d (filter, d) := by
  cases hfilter : env.filter.bind Filter.ofText? with
  | some filter =>
    refine ⟨filter, ?_⟩
    simp only [logFilter, hfilter]
    exact .done _ _
  | none =>
    refine ⟨.ofText (Filter.textOfLevel (some c.debug.logLevel)), ?_⟩
    simp only [logFilter, hfilter]
    exact (Does.complaints _ d).andThen (.done _ _)

theorem open_log_plays (directory : Path) : Plays (openLog directory : StateT Disk Logged _)
    (openLog directory : StateT Disk (StateM Terminal) _) := by
  refine (Storage.make_dirs_plays directory).andThen ?_
  intro made
  split
  · exact .done _
  · refine (StoragePlayback.writes _ _).andThen ?_
    intro written
    split <;> exact .done _

/-- The disk after the log is started, with a file in a directory if one is kept. -/
def logged (env : Environment) (c : Config) (directory : Path) (d : Disk) : Disk :=
  if env.keepsLog || c.debug.logToFile then
    (exec (openLog directory : StateT Disk Logged _) d).2
  else d

theorem start_log_does (env : Environment) (c : Config) (directory : Path) (d : Disk) :
    Does (startLog env c directory) d ((), logged env c directory d) := by
  obtain ⟨filter, hfilter⟩ := log_filter_does env c d
  have hstart (file : Option Path) (e : Disk) :
      Does (Console.startLog filter file) e ((), e) := fun _ => rfl
  refine hfilter.andThen ?_
  unfold logged
  split
  · exact (Does.of_plays (open_log_plays directory)).andThen (hstart _ _)
  · exact (Does.done none d).andThen (hstart none d)

/-- Generating answers whether the generation succeeded. -/
theorem generate_does (c : GeneratorConfig) (d : Disk) :
    Does (generate c) d ((exec (c.run : StateT Disk Logged _) d).1.isOk,
      (exec (c.run : StateT Disk Logged _) d).2) := by
  have hrun := Does.of_plays (d := d) (GeneratorConfig.run_plays (m := StateT Disk Logged)
    (n := StateT Disk (StateM Terminal)) c)
  rcases hexec : exec (c.run : StateT Disk Logged _) d with ⟨why | report, e⟩
  · rw [hexec] at hrun
    exact hrun.andThen ((Does.note _ e).andThen (.done _ _))
  · rw [hexec] at hrun
    refine hrun.andThen ?_
    have hend : Does (do
        Journal.note ⟨.info, .command,
          "Generated " ++ toString report.written.length ++ " shader(s) into " ++ c.outputDir.text⟩
        return true) e (true, e) := (Does.note _ e).andThen (.done _ _)
    dsimp only
    split
    · exact (Does.note _ e).andThen hend
    · exact hend

/-- An invocation with a configuration directory settles its configuration there, starts the log and
generates. -/
theorem execute_does {a : Arguments} (env : Environment) (hdirectory : a.configDir = some directory)
    (d : Disk) :
    let c := ((d.config? directory).getD {}).override a
    let ready := logged env c (directory.join (.ofText "logs"))
      (exec (Config.loadOrCreate directory : StateT Disk Logged _) d).2
    let ran := exec (c.generator.run : StateT Disk Logged _) ready
    Does (execute env a) d (if ran.1.isOk then 0 else 1, ran.2) := by
  intro c ready ran
  have hconfigDir : env.configDir a = .ok directory := by simp [Environment.configDir, hdirectory]
  simp only [execute, hconfigDir]
  exact (configuration_does directory d).andThen ((start_log_does env c _ _).andThen
    ((generate_does c.generator ready).andThen (.done _ _)))

end CommandLine

end Effects

section Safety

variable {d e : Disk} {directory : Path}

/-- The name of configuration files. -/
def Config.fileName : List UInt8 := (Path.ofText "config.ron").bytes

/-- Loading leaves files of configurations as they are, unless it makes one with the defaults. -/
theorem Config.load_or_create_effect {loaded : Disk}
    (h : (exec (loadOrCreate directory : StateT Disk Logged _) d).2 = loaded) :
    d.Spares fileName loaded ∨
      (∃ why, d.lookup (fileIn directory) = .error why) ∧
        ∃ place, Created directory d loaded place := by
  subst h
  rw [exec_load_or_create]
  cases hfound : d.lookup (fileIn directory) with
  | ok node =>
    dsimp only
    rw [load_keeps]
    exact .inl (.refl fileName d)
  | error why =>
    obtain ⟨next, hgrows, ⟨reason, hsave⟩ | ⟨-, e, -, -, hsave⟩⟩ := save_spec {} directory d
    · rw [hsave]
      exact .inl (.of_grows hgrows)
    · rw [hsave]
      exact .inr ⟨⟨why, rfl⟩, save_creates hfound hsave⟩

theorem Output.config_free : Output.Free Config.fileName := by
  intro stem hstem kind h
  have hname : stem ++ kind.suffix = "config.ron" := Text.Utf8.encode_injective h
  have hletter : 'l' ∈ (stem ++ kind.suffix).toList := by simp [kind.suffix_has_letter]
  rw [hname] at hletter
  exact absurd hletter (by decide)

theorem CommandLine.open_log_spares (directory : Path) (d : Disk) :
    d.Spares Config.fileName (exec (openLog directory : StateT Disk Logged _) d).2 := by
  have hlog : IsPlainName (Path.ofText "nebula-landcover.log").bytes :=
    .of_bytes (by decide) (by decide) (by decide)
  have hmade := Storage.make_dirs_spares Config.fileName directory d
  rcases hexec : exec (Storage.makeDirs directory : StateT Disk Logged _) d with ⟨why | _, next⟩
  · simpa [openLog, hexec] using hmade
  · rw [hexec] at hmade
    have hother : (Path.ofText "nebula-landcover.log").bytes ≠ Config.fileName := by decide
    have hwritten := Storage.write_text_spares hlog hother directory "" next
    rcases hwrite : exec (Storage.writeText (directory.join (.ofText "nebula-landcover.log")) "" :
      StateT Disk Logged _) next with ⟨why | _, e⟩ <;>
    · rw [hwrite] at hwritten
      simpa [openLog, hexec, hwrite] using hmade.trans hwritten

/-- After the configuration is loaded, files of its name are left alone to the end. -/
theorem CommandLine.after_loading_spares (env : Environment) (c : Config)
    (settings : GeneratorConfig) (logs : Path) (d : Disk) :
    d.Spares Config.fileName
      (exec (settings.run : StateT Disk Logged _) (logged env c logs d)).2 := by
  refine Spares.trans ?_ (settings.run_spares Output.config_free _)
  unfold logged
  split
  · exact open_log_spares logs d
  · exact .refl _ d

section Found

variable {loaded : Disk} {place : Location}
  (hload : (exec (Config.loadOrCreate directory : StateT Disk Logged _) d).2 = loaded)
  (hspares : loaded.Spares Config.fileName e)
include hload hspares

/-- A file that is found stays there. -/
theorem Config.found_stays {node : Node} (hfound : d.lookup (fileIn directory) = .ok node) :
    e.lookup (fileIn directory) = .ok node := by
  rcases load_or_create_effect hload with hloaded | ⟨⟨why, hmissing⟩, -⟩
  · exact (hloaded.trans hspares).lookup file_is_plain hfound
  · rw [hmissing] at hfound
    cases hfound

/-- In a tree, a file is found that is in the place where the path of a directory
leads downwards. -/
theorem Config.there_stays (ht : d.IsTree) (hup : ∀ name ∈ directory.names, isUp name = false)
    (hplace : e.locate (fileIn directory) = .ok place) {node : Node}
    (hat : d.at? place = some node) :
    e.at? place = some node := by
  have hhere : e.here = d.here := by
    refine hspares.keeps.here.trans ?_
    rcases load_or_create_effect hload with hloaded | ⟨-, _, hcreated⟩
    · exact hloaded.keeps.here
    · exact hcreated.here
  have hfound := found_stays hload hspares (found_in_tree ht hup hhere hplace hat)
  obtain ⟨l, hlocate, hafter⟩ := lookup_eq_ok.mp hfound
  rw [hplace] at hlocate
  obtain rfl := Except.ok.inj hlocate
  exact hafter

/-- A file that is new at the place of the configuration file holds the defaults. -/
theorem Config.new_is_default {content : List UInt8}
    (hplace : e.locate (fileIn directory) = .ok place)
    (hat : e.at? place = some (.file content)) (hnew : d.at? place ≠ some (.file content)) :
    (∃ why, d.lookup (fileIn directory) = .error why) ∧
      ∃ text, content = Text.Utf8.encode text ∧ Config.ofText text = .ok {} := by
  obtain ⟨outer, -, -, hname⟩ := locate_file file_is_plain hplace
  subst hname
  have hloadedAt := hspares.file_before hat
  rcases load_or_create_effect hload with hloaded | ⟨hmissing, created, hcreated⟩
  · exact absurd (hloaded.file_before hloadedAt) hnew
  · have hcreatedPlace := hspares.keeps.locate hcreated.located
    rw [hplace] at hcreatedPlace
    obtain rfl := Except.ok.inj hcreatedPlace
    obtain ⟨text, htext, hdefaults⟩ := hcreated.defaults
    have hcontent := hloadedAt.symm.trans hdefaults
    exact ⟨hmissing, text, Node.file.inj (Option.some.inj hcontent), of_text_of_text htext⟩

end Found

end Safety

/-- An invocation that names its configuration directory generates with the settings of its
arguments, else of the file there if that can be read, else the defaults, and succeeds as
generation does. A file that is found is never changed, whatever fails and wherever shaders go;
in a tree, a directory path that does not go up finds any file that is there. One that is new
holds the defaults. -/
theorem invocation_settles_and_spares_its_config (env : Environment) (arguments : List (List UInt8))
    (a : Arguments) (directory : Path) (d : Disk) (harguments : Arguments.ofList arguments = .ok a)
    (hdirectory : a.configDir = some directory) :
    let kept := (d.config? directory).getD {}
    let settings : GeneratorConfig :=
      { manifest := a.manifest.or kept.generator.manifest
        outputDir := a.outputDir.getD kept.generator.outputDir
        version := a.version.getD kept.generator.version
        namePrefix := a.namePrefix.getD kept.generator.namePrefix
        denyWarnings := a.denyWarnings || kept.generator.denyWarnings }
    let file := Config.fileIn directory
    let loaded := (exec (Config.loadOrCreate directory : StateT Disk Logged _) d).2
    let ready := CommandLine.logged env kept (directory.join (.ofText "logs")) loaded
    let ran := exec (settings.run : StateT Disk Logged _) ready
    let after := d.invoke env arguments
    after.disk = ran.2 ∧ after.exitCode = (if ran.1.isOk then 0 else 1) ∧
    (∀ node, d.lookup file = .ok node → after.disk.lookup file = .ok node) ∧
    (d.IsTree → (∀ name ∈ directory.names, isUp name = false) →
      ∀ place node, after.disk.locate file = .ok place → d.at? place = some node →
        after.disk.at? place = some node) ∧
    ∀ place content, after.disk.locate file = .ok place →
      after.disk.at? place = some (.file content) → d.at? place ≠ some (.file content) →
        (∃ why, d.lookup file = .error why) ∧
        ∃ text, content = Text.Utf8.encode text ∧ Config.ofText text = .ok {} := by
  intro kept settings file loaded ready ran after
  have hdoes : ((((CommandLine.invoke env arguments :
      StateT Disk (StateM Terminal) UInt32).run d).run {}).1) =
      (if ran.1.isOk then 0 else 1, ran.2) := by
    rw [CommandLine.invoke, harguments]
    exact CommandLine.execute_does env hdirectory d {}
  have hdisk : after.disk = ran.2 := congrArg Prod.snd hdoes
  have hspares : loaded.Spares Config.fileName after.disk :=
    hdisk ▸ CommandLine.after_loading_spares env kept settings _ loaded
  exact ⟨hdisk, congrArg Prod.fst hdoes, fun node => Config.found_stays rfl hspares,
    fun ht hup place node hplace hat => Config.there_stays rfl hspares ht hup hplace hat,
    fun place content => Config.new_is_default rfl hspares⟩

/-- Shaders that go where the configuration is, of a layer that has the name of its file. -/
theorem invocation_settles_and_spares_its_config_among_shaders :
    let kept : Node := .file (Text.Utf8.encode "(generator:(glsl_version:100,output_dir:\"c\"))")
    let d : Disk := { entries := [([Text.Utf8.encode "c"], .directory),
      ([Text.Utf8.encode "config.ron", Text.Utf8.encode "c"], kept),
      ([Text.Utf8.encode "m"], .file (Text.Utf8.encode "(layers:[(name:\"config.ron\")])"))] }
    let arguments := ["--config", "c", "--manifest", "m", "--prefix", "x"].map Text.Utf8.encode
    let after := d.invoke { keepsLog := true } arguments
    after.exitCode = 0 ∧ after.disk.entries.length = 7 ∧
      after.disk.lookup (Config.fileIn (.ofText "c")) = .ok kept := by
  intro kept d arguments after
  let a : Arguments :=
    { manifest := some (.ofText "m"), namePrefix := some "x", configDir := some (.ofText "c") }
  have harguments : Arguments.ofList arguments = .ok a := by decide +kernel
  have hfound : d.lookup (Config.fileIn (.ofText "c")) = .ok kept := by decide +kernel
  obtain ⟨-, -, hstays, -⟩ := invocation_settles_and_spares_its_config { keepsLog := true }
    arguments a (.ofText "c") d harguments rfl
  have hafter : after.exitCode = 0 ∧ after.disk.entries.length = 7 := by decide +kernel
  exact ⟨hafter.1, hafter.2, hstays kept hfound⟩

end Groundcover
