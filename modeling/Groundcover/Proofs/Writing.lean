import Groundcover.Generation
import Groundcover.Proofs.Output
import Groundcover.Proofs.Storage
import Mathlib.Data.List.Forall2

/-!
Runs of the writer. The files of a run are written in order up to the first that fails, and the
report tells of those. On a disk every file that was written still has its content at the end,
because no two of them have a name in common, and nothing else has changed but directories made.
-/

namespace Groundcover

open Execution Disk

/-- Every shader of every layer: the tables, the index of biomes, and the coverage of each biome. -/
def LandCover.allShaders (cover : LandCover) (coverage : Option Coverage) (o : ShaderOptions) :
    List Shader :=
  cover.layers.flatMap fun l =>
    (l.tableShader o).value :: (l.indexShader coverage o).value
      :: (l.coverageShaders coverage o).value

theorem LandCover.generate_all (cover : LandCover) (coverage : Option Coverage)
    (o : ShaderOptions) :
    (cover.generate coverage o).value.flatMap LayerShaders.all = cover.allShaders coverage o := by
  rw [generate, Logged.forList, List.flatMap_map]
  rfl

namespace Output

/-- Where a file is written. -/
def place (directory : Path) (file : String × Shader) : Path := directory.join (.ofText file.1)

/-- The report of some files in a directory, on top of what was reported before. -/
def reported (directory : Path) (report : Report) (files : List (String × Shader)) : Report :=
  ⟨report.written ++ files.map (place directory),
    report.diagnostics ++ files.flatMap fun file => file.2.diagnostics⟩

theorem reported_cons (directory : Path) (report : Report) (file : String × Shader)
    (rest : List (String × Shader)) :
    reported directory (report.add (place directory file) file.2) rest =
      reported directory report (file :: rest) := by
  simp [reported, Report.add, Diagnostics.extend]

/-- The report of a whole land cover has the diagnostics of all shaders in their order. -/
theorem reported_diagnostics (directory : Path) (report : Report) (cover : LandCover)
    (coverage : Option Coverage) (o : ShaderOptions) :
    (reported directory report (files (cover.generate coverage o).value)).diagnostics =
      report.diagnostics ++ (cover.allShaders coverage o).flatMap Shader.diagnostics := by
  rw [← cover.generate_all, ← file_shaders, List.flatMap_map, reported]

section Runs

variable (m : Type → Type) [Monad m] [Storage m] [Journal m] {σ : Type} [Execution m σ]

/-- From one state to another, files are written in order, each with success. -/
inductive Written (directory : Path) : σ → List (String × Shader) → σ → Prop
  | nil (s : σ) : Written directory s [] s
  | cons {s next t : σ} {file : String × Shader} {rest : List (String × Shader)}
      (first : exec (Storage.writeText (place directory file) file.2.source : m _) s =
        (.ok (), next))
      (others : Written directory next rest t) : Written directory s (file :: rest) t

/-- Writing ends when no file is left, or with the first file that fails. -/
inductive Ends (directory : Path) : σ → List (String × Shader) → Except GenerationError Unit →
    σ → Prop
  | done (s : σ) : Ends directory s [] (.ok ()) s
  | failed {s t : σ} {file : String × Shader} {e : OsError} (rest : List (String × Shader))
      (first : exec (Storage.writeText (place directory file) file.2.source : m _) s =
        (.error e, t)) :
      Ends directory s (file :: rest) (.error (.write (place directory file) e)) t

/-- A whole run: the directory is made, some of the files are written, and the
report tells which. -/
inductive Runs (directory : Path) (report : Report) (files : List (String × Shader)) (s : σ) :
    (Report × Except GenerationError Unit) × σ → Prop
  | refused {t : σ} {e : OsError}
      (made : exec (Storage.makeDirs directory : m _) s = (.error e, t)) :
      Runs directory report files s ((report, .error (.write directory e)), t)
  | began {next middle t : σ} {done rest : List (String × Shader)}
      {outcome : Except GenerationError Unit}
      (made : exec (Storage.makeDirs directory : m _) s = (.ok (), next))
      (split : files = done ++ rest)
      (written : Written m directory next done middle)
      (ends : Ends m directory middle rest outcome t) :
      Runs directory report files s ((reported directory report done, outcome), t)

variable {m} (directory : Path)

/-- Files are written in order up to the first that fails, and the report tells of them. -/
theorem write_files_runs (report : Report) (files : List (String × Shader)) (s : σ) :
    ∃ done rest middle outcome t, files = done ++ rest ∧ Written m directory s done middle ∧
      Ends m directory middle rest outcome t ∧
      exec (writeFiles directory report files : m _) s =
        ((reported directory report done, outcome), t) := by
  -- The report grows with each file that is written, so the induction is for any report.
  induction files generalizing report s with
  | nil =>
    refine ⟨[], [], s, .ok (), s, rfl, .nil s, .done s, ?_⟩
    simp [writeFiles, reported]
  | cons file rest ih =>
    obtain ⟨name, shader⟩ := file
    rcases hwrite : exec (Storage.writeText (place directory (name, shader)) shader.source : m _) s
      with ⟨e | _, next⟩
    · refine ⟨[], _, s, _, next, rfl, .nil s, .failed rest hwrite, ?_⟩
      rw [place] at hwrite
      simp [writeFiles, hwrite, reported, place]
    · obtain ⟨done, left, middle, outcome, t, hsplit, hwritten, hends, hexec⟩ :=
        ih (report.add (place directory (name, shader)) shader) next
      refine ⟨(name, shader) :: done, left, middle, outcome, t, by rw [hsplit, List.cons_append],
        .cons hwrite hwritten, hends, ?_⟩
      rw [← reported_cons, ← hexec]
      rw [place] at hwrite
      simp only [writeFiles, exec_bind, hwrite, exec_records, place]

/-- A run makes its directory first, and what it then writes are the files of the land cover. -/
theorem write_all_runs (cover : LandCover) (coverage : Option Coverage) (o : ShaderOptions)
    (report : Report) (s : σ) :
    Runs m directory report (files (cover.generate coverage o).value) s
      (exec (writeAll cover coverage o directory report : m _) s) := by
  rcases hmade : exec (Storage.makeDirs directory : m _) s with ⟨e | _, next⟩
  · simpa [writeAll, hmade] using Runs.refused hmade
  · obtain ⟨done, rest, middle, outcome, t, hsplit, hwritten, hends, hexec⟩ :=
      write_files_runs (m := m) directory report
        (files (cover.generate coverage o).value) next
    simpa [writeAll, hmade, hexec] using Runs.began hmade hsplit hwritten hends

variable {directory}

/-- A run that succeeds has made its directory and written all files. -/
theorem write_all_ok {cover : LandCover} {coverage : Option Coverage} {o : ShaderOptions}
    {report report' : Report} {s t : σ}
    (h : exec (writeAll cover coverage o directory report : m _) s = ((report', .ok ()), t)) :
    ∃ next, exec (Storage.makeDirs directory : m _) s = (.ok (), next) ∧
      Written m directory next (files (cover.generate coverage o).value) t ∧
      report' = reported directory report (files (cover.generate coverage o).value) := by
  have hruns := write_all_runs (m := m) directory cover coverage o report s
  rw [h] at hruns
  obtain _ | ⟨hmade, hsplit, hwritten, hends⟩ := hruns
  cases hends
  rw [List.append_nil] at hsplit
  exact ⟨_, hmade, hsplit ▸ hwritten, hsplit ▸ rfl⟩

/-- Nothing but storage makes a run fail. -/
theorem write_all_error {cover : LandCover} {coverage : Option Coverage} {o : ShaderOptions}
    {report report' : Report} {s t : σ} {why : GenerationError}
    (h : exec (writeAll cover coverage o directory report : m _) s = ((report', .error why), t)) :
    ∃ path e, why = .write path e := by
  have hruns := write_all_runs (m := m) directory cover coverage o report s
  rw [h] at hruns
  obtain _ | ⟨-, -, -, hends⟩ := hruns
  · exact ⟨_, _, rfl⟩
  · cases hends
    exact ⟨_, _, rfl⟩

end Runs

section Places

variable {directory : Path} {generated : List LayerShaders} {file other : String × Shader}

theorem place_is_file_in (directory : Path) (h : file ∈ files generated) :
    (place directory file).IsFileIn directory (Text.Utf8.encode file.1) := by
  obtain ⟨stem, kind, hstem, hname⟩ := file_has_stem generated h
  exact Path.join_is_file_in (hname ▸ file_name_is_plain hstem) directory

/-- Different files of a run are at the ends of different ways. -/
theorem places_differ :
    (files generated).Pairwise fun file other =>
      (place directory file).steps ≠ (place directory other).steps := by
  have hnames := file_names_distinct generated
  rw [List.Nodup, List.pairwise_map] at hnames
  refine hnames.imp_of_mem fun {file other} hfile hother hne hsteps => hne ?_
  rw [(place_is_file_in directory hfile).steps, (place_is_file_in directory hother).steps] at hsteps
  exact Text.Utf8.encode_injective (List.singleton_inj.mp (List.append_cancel_left hsteps))

end Places

/-- Whatever the names of layers are and however storage answers, a run writes no two files to paths
of the same steps. Each path is that of a file right in the directory, whose name is a stem with the
suffix of a kind of file. -/
theorem written_paths_never_collide {m : Type → Type} [Monad m] [Storage m] [Journal m] {σ : Type}
    [Execution m σ] (cover : LandCover) (coverage : Option Coverage) (o : ShaderOptions)
    (directory : Path) (report : Report) (s : σ) :
    let planned := files (cover.generate coverage o).value
    Runs m directory report planned s
        (exec (writeAll cover coverage o directory report : m _) s) ∧
      (planned.map (place directory)).Pairwise (fun p q => p.steps ≠ q.steps) ∧
      ∀ file ∈ planned, ∃ (stem : String) (kind : FileKind), IsStem stem ∧
        place directory file = directory.join (.ofText (stem ++ kind.suffix)) ∧
        (place directory file).IsFileIn directory (Text.Utf8.encode (stem ++ kind.suffix)) := by
  intro planned
  refine ⟨write_all_runs directory cover coverage o report s,
    List.pairwise_map.mpr places_differ, ?_⟩
  intro file hfile
  obtain ⟨stem, kind, hstem, hname⟩ := file_has_stem _ hfile
  have hplace := place_is_file_in directory hfile
  rw [hname] at hplace
  exact ⟨stem, kind, hstem, by rw [place, hname], hplace⟩

section OnDisk

variable {directory : Path} {generated : List LayerShaders} {written : List (String × Shader)}
  {file : String × Shader} {d e : Disk}

/-- The place of a file that was written holds its text, and no other place has changed. -/
theorem write_text_ok {p : Path} {text : String}
    (h : exec (Storage.writeText p text : StateT Disk Logged _) d = (.ok (), e)) :
    d.Keeps e ∧ ∃ l, e.locate p = .ok l ∧ e.at? l = some (.file (Text.Utf8.encode text)) ∧
      ∀ k, k ≠ l → e.at? k = d.at? k := by
  rw [Storage.writeText, Storage.exec_write] at h
  split at h
  · rename_i next hwrite
    obtain rfl : next = e := congrArg Prod.snd h
    obtain ⟨l, hlocate, hat, rfl⟩ := write_eq_ok hwrite
    have hne : l ≠ [] := by
      rintro rfl
      exact hat rfl
    refine ⟨.put hat, l, (Keeps.put hat).locate hlocate, by rw [at?_put _ hne, if_pos rfl], ?_⟩
    intro k hk
    rw [at?_put _ hne, if_neg hk]
  · cases h

theorem write_text_error {p : Path} {text : String} {why : OsError}
    (h : exec (Storage.writeText p text : StateT Disk Logged _) d = (.error why, e)) : e = d := by
  rw [Storage.writeText, Storage.exec_write] at h
  split at h
  · cases h
  · exact (congrArg Prod.snd h).symm

/-- Writing files changes nothing but the places of the files. -/
theorem Written.frame (h : Written (StateT Disk Logged) directory d written e) :
    d.Keeps e ∧ ∀ l, (∀ file ∈ written, e.locate (place directory file) ≠ .ok l) →
      e.at? l = d.at? l := by
  induction h with
  | nil s => exact ⟨.refl s, fun _ _ => rfl⟩
  | cons first others ih =>
    obtain ⟨hkeeps, k, hlocate, -, hsame⟩ := write_text_ok first
    obtain ⟨hkeeps', hsame'⟩ := ih
    refine ⟨hkeeps.trans hkeeps', fun l hl => ?_⟩
    obtain ⟨hfirst, hrest⟩ := List.forall_mem_cons.mp hl
    rw [hsame' l hrest, hsame l]
    rintro rfl
    exact hfirst (hkeeps'.locate hlocate)

/-- The place of a file ends with the name of the file. -/
theorem place_head (hfile : file ∈ files generated) {l : Location}
    (h : e.locate (place directory file) = .ok l) :
    ∃ outer, l = Text.Utf8.encode file.1 :: outer := by
  obtain ⟨stem, kind, hstem, hname⟩ := file_has_stem generated hfile
  obtain ⟨outer, -, -, hl⟩ := locate_file (hname ▸ file_name_is_plain hstem) h
  exact ⟨outer, hl⟩

/-- Every file that was written is there at the end, as none of them takes the place of another. -/
theorem Written.lookup (h : Written (StateT Disk Logged) directory d written e)
    (hsub : written.Sublist (files generated)) :
    ∀ file ∈ written,
      e.lookup (place directory file) = .ok (.file (Text.Utf8.encode file.2.source)) := by
  induction h with
  | nil => simp
  | @cons s next t file rest first others ih =>
    have hnames : file.1 ∉ rest.map Prod.fst := by
      have hdistinct := (hsub.map Prod.fst).nodup (file_names_distinct generated)
      exact (List.nodup_cons.mp hdistinct).1
    refine List.forall_mem_cons.mpr ⟨?_, ih ((List.sublist_cons_self file rest).trans hsub)⟩
    obtain ⟨-, l, hlocate, hat, -⟩ := write_text_ok first
    obtain ⟨hkeeps, hsame⟩ := others.frame
    refine lookup_eq_ok.mpr ⟨l, hkeeps.locate hlocate, ?_⟩
    -- A later file at the same place would have the same name.
    rw [hsame l, hat]
    intro other hother hl
    obtain ⟨outer, rfl⟩ := place_head (hsub.subset List.mem_cons_self) (hkeeps.locate hlocate)
    obtain ⟨outer', hsplit⟩ := place_head (hsub.subset (List.mem_cons_of_mem file hother)) hl
    have hname := Text.Utf8.encode_injective (List.cons.inj hsplit).1
    exact hnames (hname ▸ List.mem_map_of_mem hother)

end OnDisk

/-- When everything is written, the report is longer by one path for each shader, at which there is
the source of that shader, and by the diagnostics of the shaders in the same order. The directory
and what it lies in are there, and all else is as it was. -/
theorem write_all_effect (cover : LandCover) (coverage : Option Coverage) (o : ShaderOptions)
    (directory : Path) (report : Report) {report' : Report} {d e : Disk}
    (h : exec (writeAll cover coverage o directory report : StateT Disk Logged _) d =
      ((report', .ok ()), e)) :
    ∃ paths : List Path, report'.written = report.written ++ paths ∧
      List.Forall₂ (fun path shader => e.lookup path = .ok (.file (Text.Utf8.encode shader.source)))
        paths (cover.allShaders coverage o) ∧
      report'.diagnostics =
        report.diagnostics ++ (cover.allShaders coverage o).flatMap Shader.diagnostics ∧
      e.here = d.here ∧
      (∀ p ∈ directory.ancestors, p.bytes ≠ [] → e.IsDirectory p) ∧
      ∀ l, (∀ path ∈ paths, e.locate path ≠ .ok l) → e.at? l = d.at? l ∨
        (d.at? l = none ∧ e.at? l = some .directory ∧
          ∃ p ∈ directory.ancestors, e.locate p = .ok l) := by
  obtain ⟨next, hmade, hwritten, rfl⟩ := write_all_ok h
  obtain ⟨answer, reached, hexec, hgrows, hdirectory⟩ := Storage.make_dirs_spec directory d
  obtain ⟨rfl, rfl⟩ : answer = .ok () ∧ reached = next := by
    rw [hexec] at hmade
    exact ⟨congrArg Prod.fst hmade, congrArg Prod.snd hmade⟩
  obtain ⟨hkeeps, hsame⟩ := hwritten.frame
  refine ⟨_, rfl, ?_, reported_diagnostics directory report cover coverage o,
    hkeeps.here.trans hgrows.here, ?_, ?_⟩
  · rw [← cover.generate_all, ← file_shaders, List.forall₂_map_left_iff,
      List.forall₂_map_right_iff, List.forall₂_same]
    exact hwritten.lookup (List.Sublist.refl _)
  · intro p hp hne
    by_cases hempty : directory.bytes = []
    · obtain rfl : directory = ⟨[]⟩ := by rw [← hempty]
      exact absurd (congrArg Path.bytes (Path.ancestors_of_empty hp)) hne
    · exact hkeeps.is_directory ((hdirectory rfl hempty).ancestor hp hne)
  · intro l hl
    rw [hsame l fun file hfile => hl _ (List.mem_map_of_mem hfile)]
    refine (hgrows.places l).imp_right ?_
    rintro ⟨hnone, hdir, p, hp, hlocate⟩
    exact ⟨hnone, hdir, p, hp, hkeeps.locate hlocate⟩

/-- Two layers whose names come to the same stem, below directories that are not there. -/
theorem write_all_effect_equal_stems :
    let cover : LandCover := { layers := [{ name := "a b" }, { name := "a/b", biomes := [{}] }] }
    let directory : Path := .ofText "x/y"
    ∃ report' e,
      exec (writeAll cover none {} directory {} : StateT Disk Logged _) {} =
        ((report', .ok ()), e) ∧
      report'.written.length = 5 ∧ report'.diagnostics.length = 3 ∧ e.IsDirectory directory := by
  intro cover directory
  obtain ⟨report', e, h⟩ : ∃ report' e,
      exec (writeAll cover none {} directory {} : StateT Disk Logged _) {} =
        ((report', .ok ()), e) := by
    have hok : (exec (writeAll cover none {} directory {} : StateT Disk Logged _) {}).1.2.toBool =
        true := by decide +kernel
    generalize exec (writeAll cover none {} directory {} : StateT Disk Logged _) {} = result at hok
    obtain ⟨⟨report', _ | _⟩, e⟩ := result
    · cases hok
    · exact ⟨report', e, rfl⟩
  obtain ⟨paths, hwritten, hfiles, hdiagnostics, -, hdirectories, -⟩ :=
    write_all_effect cover none {} directory {} h
  have hshaders : (cover.allShaders none {}).length = 5 := rfl
  have hnotices : ((cover.allShaders none {}).flatMap Shader.diagnostics).length = 3 := by decide
  refine ⟨report', e, h, ?_, ?_, hdirectories directory List.mem_cons_self (by decide)⟩
  · rw [hwritten, List.length_append, hfiles.length_eq, hshaders]
    rfl
  · rw [hdiagnostics, List.length_append, hnotices]
    rfl

end Output

end Groundcover
