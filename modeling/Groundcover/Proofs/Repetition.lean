import Groundcover.Proofs.Congruence
import Groundcover.Proofs.Generation
import Groundcover.Proofs.Ways

/-!
Generations that are repeated. A generation reads its manifest and the images that the manifest
needs; as long as none of its own files is on the way to one of those, it reads the same again
after it has written, makes the same shaders of it, and finds every file as it would write it.
-/

namespace Groundcover

open Execution Disk

section Agreement

variable {m : Type → Type} [Monad m] [Journal m] {σ : Type} [Execution m σ] {α β : Type}

/-- From states that are related a computation gives the same answer, and leads to
related states. -/
def Agrees (R : σ → σ → Prop) (x : m α) : Prop :=
  ∀ s t, R s t → (exec x s).1 = (exec x t).1 ∧ R (exec x s).2 (exec x t).2

variable {R : σ → σ → Prop}

namespace Agrees

theorem done (a : α) : Agrees R (pure a : m α) := fun s t h => by simpa using h

theorem andThen {x : m α} {f : α → m β} (hx : Agrees R x) (hf : ∀ a, Agrees R (f a)) :
    Agrees R (x >>= f) := by
  intro s t h
  obtain ⟨hanswer, hreached⟩ := hx s t h
  rw [exec_bind, exec_bind, ← hanswer]
  exact hf _ _ _ hreached

theorem note (r : Record) : Agrees R (Journal.note r : m Unit) := fun s t h => by simpa using h

/-- A computation that agrees is made of computations that agree. -/
def congruence (R : σ → σ → Prop) : Congruence m m where
  Rel x y := x = y ∧ Agrees R x
  done a := ⟨rfl, .done a⟩
  andThen := by
    intro α β x y f g hx hf
    obtain ⟨rfl, hagrees⟩ := hx
    obtain rfl : f = g := funext fun a => (hf a).1
    exact ⟨rfl, hagrees.andThen fun a => (hf a).2⟩
  note r := ⟨rfl, .note r⟩

end Agrees

/-- A land cover depends on the answers for the urls of its manifest alone. -/
theorem LandCover.configure_agrees [LawfulMonad m] {load : ImageLoader m} {manifest : Manifest}
    {raised : Diagnostics} (h : ∀ url ∈ manifest.urls, Agrees R (load url)) :
    Agrees R (configure load manifest raised) :=
  ((Agrees.congruence R).configure manifest raised fun url hurl => ⟨rfl, h url hurl⟩).2

end Agreement

section Reading

variable {d e : Disk} {p file : Path}

/-- One disk beside the other. -/
def Apart (d e s t : Disk) : Prop := s = d ∧ t = e

theorem Storage.open_agrees (h : e.lookup p = d.lookup p) :
    Agrees (Apart d e) (openNode p : StateT Disk Logged _) := by
  rintro _ _ ⟨rfl, rfl⟩
  exact ⟨h.symm, rfl, rfl⟩

theorem ImageCache.size_of_file_agrees (h : e.lookup p = d.lookup p) :
    Agrees (Apart d e) (sizeOfFile p : StateT Disk Logged _) :=
  ((Agrees.congruence (Apart d e)).size_of_file ⟨rfl, Storage.open_agrees h⟩).2

theorem Manifest.load_agrees (h : e.lookup file = d.lookup file) :
    Agrees (Apart d e) (Manifest.load file : StateT Disk Logged _) :=
  ((Agrees.congruence (Apart d e)).load_manifest ⟨rfl, Storage.open_agrees h⟩).2

/-- One disk beside the other, with the same images known. -/
def Beside (d e : Disk) (s t : ImageCache × Disk) : Prop := s.1 = t.1 ∧ Apart d e s.2 t.2

theorem images_beside_agree {url : String}
    (h : e.lookup (file.imageBeside url) = d.lookup (file.imageBeside url)) :
    Agrees (Beside d e) (GeneratorConfig.imagesBeside file url :
      StateT ImageCache (StateT Disk Logged) _) := by
  have hsize := (ImageCache.size_of_file_agrees h d e ⟨rfl, rfl⟩).1
  rw [Path.imageBeside] at hsize
  have hload : Agrees (Beside d e) (ImageCache.load ((file.parent?).getD (.ofText ".")) url :
      StateT ImageCache (StateT Disk Logged) _) := by
    rintro ⟨c, _⟩ ⟨_, _⟩ ⟨rfl, hd, he⟩
    obtain rfl : _ = d := hd
    obtain rfl : _ = e := he
    simp only [ImageCache.exec_load, ← hsize]
    split <;> exact ⟨rfl, rfl, rfl, rfl⟩
  refine hload.andThen fun loaded => ?_
  split <;> exact .done _

end Reading

section Rewriting

variable {d e : Disk} {p directory : Path} {content : List UInt8} {files : List (String × Shader)}

/-- A file that is given the content it has is as it was. -/
theorem Disk.write_same (h : d.lookup p = .ok (.file content)) :
    ∃ e, d.write p content = .ok e ∧ Alike d e := by
  obtain ⟨l, hlocate, hat⟩ := lookup_eq_ok.mp h
  have hne : l ≠ [] := by
    rintro rfl
    cases hat
  refine ⟨d.put l (.file content), by simp [write, hlocate, hat, bind, Except.bind]; rfl, rfl,
    fun k => ?_⟩
  rw [at?_put _ hne]
  split
  · rename_i hk
    rw [hk, hat]
  · rfl

/-- Nothing is made where the directory is there. -/
theorem Storage.make_dirs_of_directory (h : d.lookup p = .ok .directory) :
    exec (makeDirs p : StateT Disk Logged _) d = (.ok (), d) := by
  have hensure : exec (ensureDir p : StateT Disk Logged _) d = (.ok (), d) := by
    simp [ensureDir, make_dir_of_directory h, h]
  have hmissing : exec (missingDirs p.ancestors : StateT Disk Logged _) d = (.ok [], d) := by
    rw [Path.ancestors, Path.ancestorsWithin, missingDirs]
    split
    · simp
    · simp [hensure]
  simp [makeDirs, hmissing, ensureDirs]

namespace Output

theorem Written.keeps_back (h : Written (StateT Disk Logged) directory d files e) : e.Keeps d := by
  induction h with
  | nil s => exact .refl s
  | cons first others ih =>
    obtain ⟨hkeeps, l, -, hat, hsame⟩ := write_text_ok first
    refine ih.trans ⟨hkeeps.here.symm, fun k hk => ?_⟩
    -- A place with a file of the run is no directory, so any directory is one of those before.
    have hne : k ≠ l := by
      rintro rfl
      rw [hat] at hk
      cases hk
    rw [← hsame k hne, hk]

/-- Files that are there already are written once more and reported as before. -/
theorem rewrite_files (report : Report)
    (h : ∀ file ∈ files,
      d.lookup (place directory file) = .ok (.file (Text.Utf8.encode file.2.source))) :
    ∃ e, exec (writeFiles directory report files : StateT Disk Logged _) d =
        ((reported directory report files, .ok ()), e) ∧ Alike d e := by
  induction files generalizing report d with
  | nil => exact ⟨d, by simp [writeFiles, reported], .refl d⟩
  | cons file rest ih =>
    obtain ⟨hfirst, hrest⟩ := List.forall_mem_cons.mp h
    obtain ⟨next, hwrite, hnext⟩ := write_same hfirst
    obtain ⟨e, hexec, he⟩ := ih (report.add (place directory file) file.2) fun other hother =>
      (hnext.lookup _).trans (hrest other hother)
    rw [reported_cons] at hexec
    rw [place] at hwrite hexec
    refine ⟨e, ?_, hnext.trans he⟩
    simp only [writeFiles, Storage.writeText, exec_bind, Storage.exec_write, hwrite, exec_records,
      hexec]

end Output

end Rewriting

namespace GeneratorConfig

variable {c : GeneratorConfig} {d e : Disk} {report : Report}

/-- The files that a generation reads: its manifest, and the images that the manifest needs. -/
def sources (c : GeneratorConfig) (d : Disk) : List Path :=
  match c.manifest with
  | none => []
  | some file => file :: match (exec (Manifest.load file : StateT Disk Logged _) d).1 with
    | .ok manifest => manifest.urls.map file.imageBeside
    | .error _ => []

/-- The files that a generation writes when nothing fails. -/
def targets (c : GeneratorConfig) (d : Disk) : List Path :=
  match (exec (c.produce : StateT Disk Logged _) d).1 with
  | .ok report => report.written
  | .error _ => []

/-- What a generation into a directory that is there does: it loads its manifest, configures the
land cover of it, and writes its shaders. -/
structure Produces (c : GeneratorConfig) (d : Disk) (file : Path) (manifest : Manifest)
    (cover : LandCover) (raised : Diagnostics) : Prop where
  named : c.manifest = some file
  loaded : exec (Manifest.load file : StateT Disk Logged _) d = (.ok manifest, d)
  configured : ∃ cache, exec (LandCover.configure (imagesBeside file) manifest [] :
    StateT ImageCache (StateT Disk Logged) _) ({}, d) = ((.ok cover, raised), cache, d)

/-- The files of the shaders that are generated of a land cover. -/
def filesOf (c : GeneratorConfig) (manifest : Manifest) (cover : LandCover) :
    List (String × Shader) :=
  Output.files (cover.generate (some manifest.coverage) c.options).value

variable {file : Path} {manifest : Manifest} {cover : LandCover} {raised : Diagnostics}

theorem Produces.sources (h : c.Produces d file manifest cover raised) :
    c.sources d = file :: manifest.urls.map file.imageBeside := by
  simp [GeneratorConfig.sources, h.named, h.loaded]

/-- Nothing but the cache changes before the first file is written. -/
theorem configure_keeps {built : Except DuplicateResource LandCover} {cache : ImageCache}
    {reached : Disk} (h : exec (LandCover.configure (imagesBeside file) manifest [] :
      StateT ImageCache (StateT Disk Logged) _) ({}, d) = ((built, raised), cache, reached)) :
    reached = d := by
  have hsame : Agrees (Beside d d) (LandCover.configure (imagesBeside file) manifest [] :
      StateT ImageCache (StateT Disk Logged) _) :=
    LandCover.configure_agrees fun url _ => images_beside_agree rfl
  have hreached := (hsame ({}, d) ({}, d) ⟨rfl, rfl, rfl⟩).2.2.1
  rwa [h] at hreached

/-- A generation into a directory that is there has its parts, and ends with its files written. -/
theorem produce_parts (hdirectory : d.lookup c.outputDir = .ok .directory)
    (h : exec (c.produce : StateT Disk Logged _) d = (.ok report, e)) :
    ∃ file manifest cover raised, c.Produces d file manifest cover raised ∧
      Output.Written (StateT Disk Logged) c.outputDir d (c.filesOf manifest cover) e ∧
      report = Output.reported c.outputDir ⟨[], raised⟩ (c.filesOf manifest cover) := by
  obtain ⟨why, _, hproduce, -⟩ | ⟨file, text, manifest, cover, raised, cache, reached, report', e',
    hfile, htext, hparse, hconfigure, hwrite, hproduce⟩ := c.produce_spec d
  · rw [h] at hproduce
    cases hproduce
  rw [h] at hproduce
  cases hproduce
  obtain rfl : reached = d := configure_keeps hconfigure
  obtain ⟨next, hmade, hwritten, hreport⟩ := Output.write_all_ok hwrite
  rw [Storage.make_dirs_of_directory hdirectory] at hmade
  obtain rfl : reached = next := congrArg Prod.snd hmade
  exact ⟨file, manifest, cover, raised, ⟨hfile, Manifest.load_text htext hparse, cache, hconfigure⟩,
    hwritten, hreport⟩

/-- Where all that is read is as before, a generation has the same parts. -/
theorem Produces.again (h : c.Produces d file manifest cover raised)
    (hsources : ∀ source ∈ c.sources d, e.lookup source = d.lookup source) :
    c.Produces e file manifest cover raised := by
  rw [h.sources] at hsources
  obtain ⟨hmanifest, himages⟩ := List.forall_mem_cons.mp hsources
  obtain ⟨cache, hconfigured⟩ := h.configured
  refine ⟨h.named, ?_, ?_⟩
  · obtain ⟨hanswer, -, hdisk⟩ := Manifest.load_agrees hmanifest d e ⟨rfl, rfl⟩
    rw [h.loaded] at hanswer
    exact Prod.ext hanswer.symm hdisk
  · have hagrees : Agrees (Beside d e) (LandCover.configure (imagesBeside file) manifest [] :
        StateT ImageCache (StateT Disk Logged) _) :=
      LandCover.configure_agrees fun url hurl =>
        images_beside_agree (himages _ (List.mem_map_of_mem hurl))
    obtain ⟨hanswer, -, -, hdisk⟩ := hagrees ({}, d) ({}, e) ⟨rfl, rfl, rfl⟩
    rw [hconfigured] at hanswer
    exact ⟨_, Prod.ext hanswer.symm (Prod.ext rfl hdisk)⟩

/-- Files that are written apart from the ways to what was read leave all of that as it was. -/
theorem sources_kept {files : List (String × Shader)}
    (hwritten : Output.Written (StateT Disk Logged) c.outputDir d files e)
    (hapart : ∀ source ∈ c.sources d, ∀ shader ∈ files,
      ¬d.PassesThrough source (Output.place c.outputDir shader)) :
    ∀ source ∈ c.sources d, e.lookup source = d.lookup source := by
  intro source hsource
  obtain ⟨hkeeps, hframe⟩ := hwritten.frame
  refine lookup_of_way hkeeps.here fun l hl => hframe l fun shader hshader hlocate => ?_
  exact hapart source hsource shader hshader ⟨l, hl, hwritten.keeps_back.locate hlocate⟩

/-- A generation without a failure, made once more, reports the same and leaves the same. -/
theorem produce_again (hdirectory : d.lookup c.outputDir = .ok .directory)
    (hapart : ∀ source ∈ c.sources d, ∀ target ∈ c.targets d, ¬d.PassesThrough source target)
    (h : exec (c.produce : StateT Disk Logged _) d = (.ok report, e)) :
    ∃ f, exec (c.produce : StateT Disk Logged _) e = (.ok report, f) ∧ Alike e f := by
  obtain ⟨file, manifest, cover, raised, hparts, hwritten, hreport⟩ := produce_parts hdirectory h
  have htargets : c.targets d = (c.filesOf manifest cover).map (Output.place c.outputDir) := by
    simp [targets, h, hreport, Output.reported]
  have hsources := sources_kept hwritten fun source hsource shader hshader =>
    hapart source hsource _ (htargets ▸ List.mem_map_of_mem hshader)
  obtain ⟨hfile, hload, cache, hconfigure⟩ := hparts.again hsources
  have hthere : e.lookup c.outputDir = .ok .directory :=
    hwritten.frame.1.lookup_directory hdirectory
  obtain ⟨f, hrewrite, halike⟩ := Output.rewrite_files ⟨[], raised⟩
    (hwritten.lookup (List.Sublist.refl _))
  rw [filesOf] at hreport hrewrite
  refine ⟨f, ?_, halike⟩
  simp [produce, hfile, hload, exec_run, hconfigure, Output.writeAll,
    Storage.make_dirs_of_directory hthere, hrewrite, hreport]

end GeneratorConfig

/-- A generation into a directory that is there, none of whose files is on the way to what it reads,
can be repeated. It then reports the same, or denies as many warnings, and every place on the disk
keeps what it holds. -/
theorem second_run_changes_nothing (c : GeneratorConfig) (d : Disk)
    (hdirectory : d.lookup c.outputDir = .ok .directory)
    (hapart : ∀ source ∈ c.sources d, ∀ target ∈ c.targets d, ¬d.PassesThrough source target)
    (outcome : Except GenerationError Report) (e : Disk)
    (hfirst : exec (c.run : StateT Disk Logged _) d = (outcome, e))
    (houtcome : (∃ report, outcome = .ok report) ∨ ∃ n, outcome = .error (.warningsDenied n)) :
    ∃ f, exec (c.run : StateT Disk Logged _) e = (outcome, f) ∧ f.here = e.here ∧
      ∀ l, f.at? l = e.at? l := by
  rw [c.exec_verdict d] at hfirst
  rcases hproduce : exec (c.produce : StateT Disk Logged _) d with ⟨why | report, reached⟩
  · obtain ⟨why', _, hproduce', hwhy⟩ | ⟨_, _, _, _, _, _, _, _, _, -, -, -, -, -, hproduce'⟩ :=
      c.produce_spec d
    · rw [hproduce] at hfirst hproduce'
      cases hproduce'
      cases hfirst
      rcases houtcome with ⟨_, ⟨⟩⟩ | ⟨n, hn⟩
      exact absurd (Except.error.inj hn) (hwhy n)
    · rw [hproduce] at hproduce'
      cases hproduce'
  · rw [hproduce] at hfirst
    cases hfirst
    obtain ⟨f, hagain, halike⟩ := c.produce_again hdirectory hapart hproduce
    exact ⟨f, by rw [c.exec_verdict e, hagain], halike.here, halike.places⟩

/-- A manifest that asks for an image which is missing, with its one layer written next to it. -/
theorem second_run_changes_nothing_missing_image :
    let text := "(layers:[(biomes:[(symbols:[Billboard((url:Some(\"tree.png\")))])])])"
    let d : Disk := { entries := [([Text.Utf8.encode "m"], .file (Text.Utf8.encode text)),
      ([Text.Utf8.encode "out"], .directory)] }
    let c : GeneratorConfig := { manifest := some (.ofText "m"), outputDir := .ofText "out" }
    ∃ report e f, exec (c.run : StateT Disk Logged _) d = (.ok report, e) ∧
      report.written.length = 3 ∧ report.warningCount = 1 ∧
      exec (c.run : StateT Disk Logged _) e = (.ok report, f) ∧ f.here = e.here ∧
      ∀ l, f.at? l = e.at? l := by
  intro text d c
  obtain ⟨report, e, hfirst, hwritten, hwarnings⟩ : ∃ report e,
      exec (c.run : StateT Disk Logged _) d = (.ok report, e) ∧ report.written.length = 3 ∧
        report.warningCount = 1 := by
    have hok : ((exec (c.run : StateT Disk Logged _) d).1.toOption.map fun report =>
        (report.written.length, report.warningCount)) = some (3, 1) := by decide +kernel
    rcases hrun : exec (c.run : StateT Disk Logged _) d with ⟨why | report, e⟩
    · simp [hrun, Except.toOption] at hok
    · exact ⟨report, e, rfl, by simpa [hrun, Except.toOption] using hok⟩
  have hdirectory : d.lookup c.outputDir = .ok .directory := by decide +kernel
  have hapart : ∀ source ∈ c.sources d, ∀ target ∈ c.targets d, ¬d.PassesThrough source target := by
    decide +kernel
  obtain ⟨f, hsecond, hsame⟩ :=
    second_run_changes_nothing c d hdirectory hapart (.ok report) e hfirst (.inl ⟨report, rfl⟩)
  exact ⟨report, e, f, hfirst, hwritten, hwarnings, hsecond, hsame⟩

end Groundcover
