import Groundcover.Proofs.Raising
import Groundcover.Proofs.Writing

/-!
What a generation logs. Diagnostics are logged when they are raised and put into the report
later, but in the same order: the warnings and the notices of a log are those of the report, each
of them once.
-/

namespace Groundcover

open Execution

/-- A view of computations that keeps what they log on the way. -/
class Recording (m : Type → Type) [Monad m] [Journal m] (σ : outParam Type) [Execution m σ] where
  log : {α : Type} → m α → σ → List Record
  log_pure : ∀ {α : Type} (a : α) (s : σ), log (pure a) s = []
  log_bind : ∀ {α β : Type} (x : m α) (f : α → m β) (s : σ),
    log (x >>= f) s = log x s ++ log (f (exec x s).1) (exec x s).2
  log_note : ∀ (r : Record) (s : σ), log (Journal.note r) s = [r]

namespace Recording

attribute [simp] log_pure log_bind log_note

instance {σ : Type} : Recording (StateT σ Logged) σ where
  log x s := (x.run s).records
  log_pure _ _ := rfl
  log_bind _ _ _ := rfl
  log_note _ _ := rfl

variable {m : Type → Type} [Monad m] [Journal m] {σ : Type} [Execution m σ] [Recording m σ]

instance {τ : Type} : Recording (StateT τ m) (τ × σ) where
  log x s := log (x.run s.1) s.2
  log_pure a s := by simp
  log_bind x f s := by
    rw [StateT.run_bind, log_bind]
    rfl
  log_note r s := by simp [note_run]

variable {α τ : Type}

@[simp] theorem log_lift (x : m α) (t : τ) (s : σ) :
    log (StateT.lift x : StateT τ m α) (t, s) = log x s := by
  show log ((StateT.lift x : StateT τ m α).run t) s = _
  rw [StateT.run_lift, log_bind, log_pure, List.append_nil]

@[simp] theorem log_map {β : Type} [LawfulMonad m] (f : α → β) (x : m α) (s : σ) :
    log (f <$> x) s = log x s := by
  rw [map_eq_pure_bind, log_bind, log_pure, List.append_nil]

/-- Notes for each element of a list are logged in order. -/
@[simp] theorem log_notes (record : α → Record) (items : List α) (s : σ) :
    log (forM items fun a => (Journal.note (record a) : m Unit)) s = items.map record := by
  induction items with
  | nil => simp
  | cons a items ih => simp [ih]

@[simp] theorem log_records (records : List Record) (s : σ) :
    log (records.forM Journal.note : m PUnit) s = records := by
  simpa using log_notes (m := m) id records s

@[simp] theorem log_tell (x : Logged α) (s : σ) : log (x.tell : m α) s = x.records := by
  simp only [Logged.tell, log_bind, log_records, log_pure, List.append_nil]

/-- A computation that logs nothing. -/
def Silent (x : m α) : Prop := ∀ s, log x s = []

namespace Silent

theorem done (a : α) : Silent (pure a : m α) := log_pure a

theorem andThen {β : Type} {x : m α} {f : α → m β} (hx : Silent x) (hf : ∀ a, Silent (f a)) :
    Silent (x >>= f) := fun s => by rw [log_bind, hx, hf, List.nil_append]

end Silent

end Recording

open Recording

/-- The notices of what is missing for a classification. -/
def FallbackReason.notices : List String :=
  [noCoverage, noLegend, noClassificationLayer].map fun reason => (Diagnostic.fallback reason).text

/-- A warning, or a notice of what is missing for a classification. -/
def Record.isRaised (r : Record) : Bool :=
  r.level = .warn || (r.level = .info && FallbackReason.notices.contains r.text)

theorem Diagnostic.is_raised (d : Diagnostic) : d.record.isRaised = true := by
  cases d with
  | fallback reason => cases reason <;> decide
  | _ => rfl

theorem Diagnostic.filter_records (ds : Diagnostics) :
    (ds.map record).filter Record.isRaised = ds.map record :=
  List.filter_eq_self.mpr fun r hr => by
    obtain ⟨d, -, rfl⟩ := List.mem_map.mp hr
    exact d.is_raised

/-- A note of a text that begins unlike the notices. -/
theorem Record.not_raised {r : Record} (hlevel : r.level ≠ .warn)
    (htext : r.text.toList.head? ≠ some 'n') : r.isRaised = false := by
  have hnotices : r.text ∉ FallbackReason.notices := by
    intro h
    obtain ⟨reason, -, hreason⟩ := List.mem_map.mp h
    rw [← hreason] at htext
    cases reason <;> exact absurd rfl htext
  simp [isRaised, hlevel, hnotices]

/-- The faults of some outcomes are those of each of them. -/
theorem faults_one_by_one (outcomes : List (Except Diagnostic Billboard)) :
    outcomes.flatMap (fun outcome => faults [outcome]) = faults outcomes := by
  rw [faults, List.filterMap_eq_flatMap_toList]
  rfl

section Building

variable {m : Type → Type} [Monad m] [Journal m] {σ : Type} [Execution m σ] [Recording m σ]

/-- What a computation raises in the log can be told from its answer. -/
def Tells {α : Type} (x : m α) (raised : α → List Record) : Prop :=
  ∀ s, (log x s).filter Record.isRaised = raised (exec x s).1

/-- A loader that neither warns nor informs. -/
def ImageLoader.Quiet (load : ImageLoader m) : Prop :=
  ∀ url s, ∀ r ∈ log (load url) s, r.level ≠ .warn ∧ r.level ≠ .info

theorem ImageLoader.Quiet.filter_log {load : ImageLoader m} (h : load.Quiet) (url : String)
    (s : σ) :
    (log (load url) s).filter Record.isRaised = [] :=
  List.filter_eq_nil_iff.mpr fun r hr => by
    obtain ⟨hwarn, hinfo⟩ := h url s r hr
    simp [Record.isRaised, hwarn, hinfo]

variable [LawfulMonad m]

theorem Tells.each {α β : Type} {f : α → m β} {raised : β → List Record}
    (h : ∀ a, Tells (f a) raised) (items : List α) :
    Tells (items.mapM f) (List.flatMap raised) := by
  induction items with
  | nil => exact fun s => by simp
  | cons a items ih =>
    intro s
    simp only [List.mapM_cons, log_bind, log_pure, exec_bind, exec_pure, List.filter_append,
      List.append_nil, h a s, ih _, List.flatMap_cons]

variable {load : ImageLoader m} (hload : load.Quiet) (library : Option Library)
include hload

omit [LawfulMonad m] in
theorem Symbol.place_silent (s : Symbol) : Tells (s.place load library) fun _ => [] := by
  intro state
  cases hb : s.billboard? with
  | none => simp [place, hb]
  | some b =>
    cases hr : b.resolve library with
    | error fault => simp [place, hb, hr]
    | ok r =>
      simp only [place, hb, hr, log_bind, List.filter_append, hload.filter_log, List.nil_append]
      split <;> simp

omit [LawfulMonad m] in
theorem Symbol.tells (s : Symbol) : Tells (s.placeLogged load library)
    fun outcome => (faults [outcome]).map Diagnostic.record := by
  intro state
  have hplace := s.place_silent hload library state
  cases houtcome : (exec (s.place load library) state).1 with
  | ok billboard => simp [placeLogged, hplace, houtcome, faults]
  | error fault => simp [placeLogged, hplace, houtcome, faults, fault.is_raised]

theorem Biome.tells (entry : BiomeEntry) : Tells (Biome.ofEntry load library entry)
    fun made => made.diagnostics.map Diagnostic.record := by
  intro state
  have hsymbols := Tells.each (Symbol.tells hload library) entry.symbols state
  simp only [Biome.ofEntry, log_bind, log_pure, List.append_nil, exec_bind, exec_pure, hsymbols,
    ← List.map_flatMap, faults_one_by_one]

theorem Layer.tells (entry : LayerEntry) : Tells (Layer.ofEntry load library entry)
    fun made => made.diagnostics.map Diagnostic.record := by
  intro state
  have hbiomes := Tells.each (Biome.tells hload library) entry.biomes state
  have hdone : Record.isRaised ⟨.info, .landCover,
      "Configured land cover layer \"" ++ entry.name ++ "\""⟩ = false :=
    Record.not_raised nofun (by simp)
  simp [Layer.ofEntry, hbiomes, Diagnostic.filter_records, hdone, List.map_flatMap]

namespace LandCover

/-- The warning that there are no layers comes before all that is raised for layers. -/
theorem of_layers_tells (entries : List LayerEntry) : Tells (ofLayers load library entries)
    fun made => (if entries = [] then
        [⟨.warn, .landCover, "No land cover layers defined; no land cover to render"⟩]
      else []) ++ made.diagnostics.map Diagnostic.record := by
  intro state
  by_cases hnone : entries = []
  · simp [ofLayers, hnone, Record.isRaised]
  · have hlayers := Tells.each (Layer.tells hload library) entries state
    simp [ofLayers, hnone, hlayers, List.map_flatMap]

variable {manifest : Manifest} {start finish : σ}

omit library in
theorem of_manifest_tells {made : Diagnosed LandCover}
    (h : exec (ofManifest load manifest) start = (.ok made, finish)) :
    (log (ofManifest load manifest) start).filter Record.isRaised =
      (if manifest.layers = [] then
        [⟨.warn, .landCover, "No land cover layers defined; no land cover to render"⟩]
      else []) ++ made.diagnostics.map Diagnostic.record := by
  unfold ofManifest at h ⊢
  split at h
  · have htells := of_layers_tells hload none manifest.layers start
    simp only [exec_bind, exec_pure, Prod.mk.injEq, Except.ok.injEq] at h
    simp [htells, h.1]
  · rename_i config _
    have hlibrary : (Library.ofConfig config).records.filter Record.isRaised = [] := by
      unfold Library.ofConfig
      split <;> simp [Record.isRaised]
    simp only [exec_bind, exec_tell] at h
    simp only [log_bind, log_tell, List.filter_append, hlibrary, List.nil_append, exec_tell]
    split at h
    · simp at h
    · rename_i opened hopened
      have htells := of_layers_tells hload (some opened) manifest.layers start
      simp only [exec_bind, exec_pure, Prod.mk.injEq, Except.ok.injEq] at h
      simp [htells, h.1]

omit library in
/-- Land cover that was configured has logged what it raised, behind the warning of no layers. -/
theorem configure_tells {cover : LandCover} {raised : Diagnostics}
    (h : exec (configure load manifest []) start = ((.ok cover, raised), finish)) :
    (log (configure load manifest []) start).filter Record.isRaised =
      (if manifest.layers = [] then
        [⟨.warn, .landCover, "No land cover layers defined; no land cover to render"⟩]
      else []) ++ raised.map Diagnostic.record := by
  simp only [configure, exec_bind] at h
  rcases hmade : exec (ofManifest load manifest) start with ⟨e | made, last⟩
  · simp [hmade] at h
  · have htells := of_manifest_tells hload hmade
    simp only [hmade, exec_pure, Prod.mk.injEq, Diagnostics.extend, List.nil_append] at h
    simp [configure, htells, hmade, ← h.1.2]

end LandCover

end Building

section Writing

/-- Storage that logs nothing of its own. -/
class Storage.Unlogged (m : Type → Type) [Monad m] [Storage m] [Journal m] {σ : Type}
    [Execution m σ] [Recording m σ] : Prop where
  open_node : ∀ p, Silent (Storage.openNode p : m _)
  make_dir : ∀ p, Silent (Storage.makeDir p : m _)
  write : ∀ p content, Silent (Storage.write p content : m _)

namespace Storage

instance : Unlogged (StateT Disk Logged) where
  open_node _ _ := rfl
  make_dir p d := by cases h : d.makeDir p <;> simp [makeDir, Disk.change, log, h]
  write p content d := by cases h : d.write p content <;> simp [write, Disk.change, log, h]

variable {m : Type → Type} [Monad m] [Storage m] [Journal m] {σ : Type} [Execution m σ]
  [Recording m σ] [Unlogged m]

instance {τ : Type} : Unlogged (StateT τ m) where
  open_node p s := (log_lift _ s.1 s.2).trans (Unlogged.open_node p s.2)
  make_dir p s := (log_lift _ s.1 s.2).trans (Unlogged.make_dir p s.2)
  write p content s := (log_lift _ s.1 s.2).trans (Unlogged.write p content s.2)

theorem ensure_dir_silent (p : Path) : Silent (ensureDir p : m _) := by
  refine (Unlogged.make_dir p).andThen fun answer => ?_
  split
  · exact .done _
  · refine ((Unlogged.open_node p).andThen fun answer => ?_).andThen fun there => ?_
    · split <;> exact .done _
    · split <;> exact .done _
  · exact .done _

theorem missing_dirs_silent (paths : List Path) : Silent (missingDirs paths : m _) := by
  induction paths with
  | nil => exact .done _
  | cons p outer ih =>
    unfold missingDirs
    split
    · exact .done _
    · refine (ensure_dir_silent p).andThen fun answer => ?_
      split
      · exact .done _
      · exact ih.andThen fun answer => by split <;> exact .done _
      · exact .done _

theorem ensure_dirs_silent (paths : List Path) : Silent (ensureDirs paths : m _) := by
  induction paths with
  | nil => exact .done _
  | cons p rest ih =>
    refine (ensure_dir_silent p).andThen fun answer => ?_
    split
    · exact ih
    · exact .done _

theorem make_dirs_silent (p : Path) : Silent (makeDirs p : m _) := by
  refine (missing_dirs_silent p.ancestors).andThen fun answer => ?_
  split
  · exact .done _
  · exact ensure_dirs_silent _

end Storage

open Storage

variable {m : Type → Type} [Monad m] [Storage m] [Journal m] {σ : Type} [Execution m σ]
  [Recording m σ] [Unlogged m]

/-- What is logged about a file that was written is neither a warning nor a notice. -/
theorem Shader.written_records_not_raised (s : Shader) (path : Path) :
    (s.writtenRecords path).filter Record.isRaised = [] := by
  refine List.filter_eq_nil_iff.mpr fun r hr => ?_
  rw [Bool.not_eq_true]
  rcases List.mem_cons.mp hr with rfl | hr
  · refine Record.not_raised nofun ?_
    simp only [String.append_assoc, String.toList_append]
    simp
  · obtain rfl := List.mem_singleton.mp hr
    rfl

/-- Reports are put together without a word. -/
theorem Output.write_files_silent (directory : Path) (report : Report)
    (files : List (String × Shader)) (s : σ) :
    (log (writeFiles directory report files : m _) s).filter Record.isRaised = [] := by
  induction files generalizing report s with
  | nil => simp [writeFiles]
  | cons file rest ih =>
    obtain ⟨name, shader⟩ := file
    have hwrite : Silent (Storage.writeText (directory.join (.ofText name)) shader.source : m _) :=
      Unlogged.write _ _
    simp only [writeFiles, log_bind, hwrite s, List.nil_append]
    split
    · simp
    · simp only [log_bind, log_records, exec_records, List.filter_append,
        shader.written_records_not_raised, ih, List.append_nil]

/-- Compiling logs what the shader of the program has for diagnostics, once and in order. -/
theorem Raises.shader_records {α : Type} {x : Raising α} {made : Diagnosed α} (h : Raises x made)
    (name : String) (source : α → String) :
    (x.shader name source).records =
      (x.shader name source).value.diagnostics.map Diagnostic.record := by
  rw [Raising.shader, h.diagnosed]
  exact List.append_nil _

/-- The shaders of a layer are logged with their diagnostics in the order in which
they are listed. -/
theorem Layer.shaders_tell (l : Layer) (coverage : Option Coverage) (o : ShaderOptions) :
    (l.shaders coverage o).records.filter Record.isRaised =
      ((l.shaders coverage o).value.all.flatMap Shader.diagnostics).map Diagnostic.record := by
  have htables : (l.tableShader o).records.filter Record.isRaised = [] := rfl
  have hindex : (l.indexShader coverage o).records =
      (l.indexShader coverage o).value.diagnostics.map Diagnostic.record :=
    (IndexProgram.build_raises l coverage).shader_records _ _
  have hcoverage : (l.coverageShaders coverage o).records =
      ((l.coverageShaders coverage o).value.flatMap Shader.diagnostics).map Diagnostic.record := by
    rw [coverageShaders, Logged.forList, List.flatMap_map, List.map_flatMap]
    refine List.flatMap_congr ?_
    rintro ⟨b, i⟩ -
    exact (CoverageProgram.build_raises b coverage).shader_records _ _
  have hall : (l.shaders coverage o).value.all.flatMap Shader.diagnostics =
      (l.indexShader coverage o).value.diagnostics ++
        (l.coverageShaders coverage o).value.flatMap Shader.diagnostics := rfl
  simp only [shaders, Logged.records_bind, Logged.records_pure, List.filter_append, htables, hindex,
    hcoverage, Diagnostic.filter_records, List.nil_append, List.append_nil, ← List.map_append]
  exact congrArg _ hall.symm

theorem LandCover.generate_tells (cover : LandCover) (coverage : Option Coverage)
    (o : ShaderOptions) :
    (cover.generate coverage o).records.filter Record.isRaised =
      ((cover.allShaders coverage o).flatMap Shader.diagnostics).map Diagnostic.record := by
  rw [← cover.generate_all, generate, Logged.forList, List.filter_flatMap, List.flatMap_map,
    List.flatMap_assoc, List.map_flatMap]
  exact congrArg (cover.layers.flatMap ·) (funext fun l => l.shaders_tell coverage o)

/-- Shaders are logged when they are generated, all of them before the first is written; the report
has their diagnostics in the same order. -/
theorem Output.write_all_tells {cover : LandCover} {coverage : Option Coverage} {o : ShaderOptions}
    {directory : Path} {raised : Diagnostics} {report : Report} {s t : σ}
    (h : exec (writeAll cover coverage o directory ⟨[], raised⟩ : m _) s = ((report, .ok ()), t)) :
    raised.map Diagnostic.record ++
        (log (writeAll cover coverage o directory ⟨[], raised⟩ : m _) s).filter Record.isRaised =
      report.diagnostics.map Diagnostic.record := by
  obtain ⟨next, hmade, -, rfl⟩ := write_all_ok h
  simp only [writeAll, log_bind, make_dirs_silent directory s, hmade, log_tell, exec_tell,
    List.filter_append, cover.generate_tells, write_files_silent, List.nil_append, List.append_nil,
    reported_diagnostics, List.map_append]

end Writing

/-- Land cover configured from a manifest and then written, with one report about both. -/
def LandCover.configureAndWrite {m : Type → Type} [Monad m] [Storage m] [Journal m]
    (load : ImageLoader m) (manifest : Manifest) (coverage : Option Coverage) (o : ShaderOptions)
    (directory : Path) : m (Report × Except GenerationError Unit) := do
  let (built, raised) ← configure load manifest []
  match built with
  | .error e => return (⟨[], raised⟩, .error (.duplicateResource e))
  | .ok cover => Output.writeAll cover coverage o directory ⟨[], raised⟩

/-- The warnings of a log and its notices of missing classification are the diagnostics of the
report, each once and in their order; only that there are no layers is told before. -/
theorem diagnostics_are_logged_once {τ : Type} (load : ImageLoader (StateT τ (StateT Disk Logged)))
    (hload : ∀ url t d, ∀ r ∈ (((load url).run t).run d).records, r.level ≠ .warn ∧ r.level ≠ .info)
    (manifest : Manifest) (coverage : Option Coverage) (o : ShaderOptions) (directory : Path)
    (t : τ) (d : Disk) (report : Report) :
    let done := ((LandCover.configureAndWrite load manifest coverage o directory).run t).run d
    done.value.1.1 = (report, .ok ()) →
      done.records.filter Record.isRaised =
        (if manifest.layers = [] then
          [⟨.warn, .landCover, "No land cover layers defined; no land cover to render"⟩]
        else []) ++ report.diagnostics.map fun d =>
          ⟨if d.isWarning then .warn else .info, .diagnostic, d.text⟩ := by
  intro done h
  have hquiet : load.Quiet := fun url s => hload url s.1 s.2
  obtain ⟨finish, hexec⟩ : ∃ finish,
      exec (LandCover.configureAndWrite load manifest coverage o directory) (t, d) =
        ((report, .ok ()), finish) := ⟨(done.value.1.2, done.value.2), by rw [← h]; rfl⟩
  have hlog : done.records =
      log (LandCover.configureAndWrite load manifest coverage o directory) (t, d) := rfl
  rw [hlog]
  rcases hconfigure : exec (LandCover.configure load manifest []) (t, d) with
    ⟨⟨why | cover, raised⟩, middle⟩
  · simp [LandCover.configureAndWrite, hconfigure] at hexec
  · simp only [LandCover.configureAndWrite, exec_bind, hconfigure] at hexec
    simp only [LandCover.configureAndWrite, log_bind, hconfigure, List.filter_append,
      LandCover.configure_tells hquiet hconfigure, List.append_assoc]
    exact congrArg _ (Output.write_all_tells hexec)

/-- A loader that tells of each call. Of two layers the first has an icon, an image that is missing
and no density; as there is no legend, each layer and each biome has a notice. -/
theorem diagnostics_are_logged_once_noisy :
    let load : ImageLoader (StateT Nat (StateT Disk Logged)) := fun url calls d =>
      ⟨((if url = "gone" then .error "not found" else .ok ⟨calls, 8, 8⟩, calls + 1), d),
        [⟨.debug, .loader, "asked for " ++ url⟩]⟩
    let symbols : List Symbol :=
      [.icon ⟨"i"⟩, .billboard { url := some "tree" }, .billboard { url := some "gone" }]
    let manifest : Manifest :=
      { layers := [{ name := "a", params := { density := .quietNaN false }
                     biomes := [{ classes := "wood", symbols := symbols }] }, { name := "b" }] }
    let done := ((LandCover.configureAndWrite load manifest (some manifest.coverage) {}
      (.ofText "out")).run 0).run {}
    ∃ report, done.value.1.1 = (report, .ok ()) ∧ report.diagnostics.length = 6 ∧
      done.records.filter Record.isRaised = report.diagnostics.map Diagnostic.record := by
  intro load symbols manifest done
  have hquiet : ∀ url t d, ∀ r ∈ (((load url).run t).run d).records,
      r.level ≠ .warn ∧ r.level ≠ .info := by
    intro url t d r hr
    obtain rfl := List.mem_singleton.mp hr
    exact ⟨nofun, nofun⟩
  have hcount : done.value.1.1.1.diagnostics.length = 6 ∧ done.value.1.1.2.toBool = true := by
    decide +kernel
  obtain ⟨report, hreport⟩ : ∃ report, done.value.1.1 = (report, .ok ()) := by
    generalize done.value.1.1 = result at hcount
    obtain ⟨report, _ | _⟩ := result
    · cases hcount.2
    · exact ⟨report, rfl⟩
  refine ⟨report, hreport, by rw [hreport] at hcount; exact hcount.1, ?_⟩
  exact diagnostics_are_logged_once load hquiet manifest (some manifest.coverage) {} (.ofText "out")
    0 {} report hreport

end Groundcover
