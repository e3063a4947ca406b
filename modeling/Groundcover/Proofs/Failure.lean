import Groundcover.Proofs.Writing

/-!
Runs of the writer that fail. Storage may refuse anything for reasons of its own, and leaves the
disk as it was when it does. A run ends with what is refused first, and its report tells of the
files that were written before that: those are on the disk, and nothing was done about the others.
-/

namespace Groundcover

open Execution Disk

/-- What an operation on a disk that can refuse it does: what it does on any disk, or nothing. -/
def Disk.Does (operation : Disk → Except OsError Disk) (d : Disk) :
    Except OsError Unit → Disk → Prop
  | .ok (), e => operation d = .ok e
  | .error _, e => e = d

/-- A path is left alone: what it leads to is as it was, and where it leads there is nothing new,
but for a directory that was missing on one of some ways. -/
structure Disk.LeavesAlone (ways : List Path) (p : Path) (d e : Disk) : Prop where
  kept : ∀ node, d.lookup p = .ok node → e.lookup p = .ok node
  place : ∀ l, e.locate p = .ok l → e.at? l = d.at? l ∨
    d.at? l = none ∧ e.at? l = some .directory ∧ ∃ q ∈ ways, e.locate q = .ok l

/-- A view of storage as a disk that can refuse what it is asked for. -/
structure DiskView (m : Type → Type) [Monad m] [Storage m] [Journal m] {σ : Type}
    [Execution m σ] where
  disk : σ → Disk
  opens : ∀ (p : Path) (s : σ), disk (exec (Storage.openNode p : m _) s).2 = disk s
  makes : ∀ (p : Path) (s : σ), Disk.Does (fun d => d.makeDir p) (disk s)
    (exec (Storage.makeDir p : m _) s).1 (disk (exec (Storage.makeDir p : m _) s).2)
  writes : ∀ (p : Path) (content : List UInt8) (s : σ),
    Disk.Does (fun d => d.write p content) (disk s)
      (exec (Storage.write p content : m _) s).1 (disk (exec (Storage.write p content : m _) s).2)

namespace DiskView

/-- A disk that refuses nothing without need. -/
def plain : DiskView (StateT Disk Logged) where
  disk d := d
  opens _ _ := rfl
  makes p d := by
    rw [Storage.exec_make_dir]
    cases h : d.makeDir p <;> simp [Does, h]
  writes p content d := by
    rw [Storage.exec_write]
    cases h : d.write p content <;> simp [Does, h]

variable {m : Type → Type} [Monad m] [Storage m] [Journal m] {σ : Type} [Execution m σ]
  (view : DiskView m)

section Making

theorem is_directory_keeps (p : Path) (s : σ) :
    view.disk (exec (Storage.isDirectory p : m _) s).2 = view.disk s := by
  rw [Storage.isDirectory, exec_bind]
  split <;> simp [view.opens]

theorem ensure_dir_grows (p : Path) (s : σ) :
    Grows [p] (view.disk s) (view.disk (exec (Storage.ensureDir p : m _) s).2) := by
  have hmake := view.makes p s
  rw [Storage.ensureDir, exec_bind]
  generalize exec (Storage.makeDir p : m _) s = made at hmake ⊢
  obtain ⟨why | _, t⟩ := made
  · -- Refused, it may still be there, which is only looked at.
    have hsame : view.disk t = view.disk s := hmake
    rw [← hsame]
    cases why with
    | alreadyExists =>
      simp only [exec_bind]
      split <;> simpa [view.is_directory_keeps] using Grows.refl [p] _
    | _ => simpa using Grows.refl [p] _
  · simpa using Grows.make_dir hmake

/-- What is found missing is among the paths that were tried, which are all that can be new. -/
theorem missing_dirs_grow (paths : List Path) (s : σ) :
    Grows paths (view.disk s) (view.disk (exec (Storage.missingDirs paths : m _) s).2) ∧
      ∀ missing, (exec (Storage.missingDirs paths : m _) s).1 = .ok missing → missing ⊆ paths := by
  induction paths generalizing s with
  | nil => simpa [Storage.missingDirs] using Grows.refl [] _
  | cons p outer ih =>
    by_cases hmade : Storage.canBeMade p = true
    · have hgrows : Grows (p :: outer) _ _ := (view.ensure_dir_grows p s).first
      rcases hensured : exec (Storage.ensureDir p : m _) s with ⟨why | _, t⟩
      · rw [hensured] at hgrows
        by_cases hfound : why = .notFound
        · subst hfound
          obtain ⟨hgrows', hmissing⟩ := ih t
          rcases houter : exec (Storage.missingDirs outer : m _) t with ⟨why | inner, u⟩
          · rw [houter] at hgrows'
            simpa [Storage.missingDirs, hmade, hensured, houter] using hgrows.trans hgrows'.others
          · rw [houter] at hgrows' hmissing
            refine ⟨?_, ?_⟩
            · simpa [Storage.missingDirs, hmade, hensured, houter] using hgrows.trans hgrows'.others
            · simpa [Storage.missingDirs, hmade, hensured, houter] using
                List.cons_subset_cons p (hmissing inner rfl)
        · cases why <;> simp_all [Storage.missingDirs]
      · rw [hensured] at hgrows
        simpa [Storage.missingDirs, hmade, hensured] using hgrows
    · simpa [Storage.missingDirs, hmade] using Grows.refl _ _

theorem ensure_dirs_grow (paths : List Path) (s : σ) :
    Grows paths (view.disk s) (view.disk (exec (Storage.ensureDirs paths : m _) s).2) := by
  induction paths generalizing s with
  | nil => simpa [Storage.ensureDirs] using Grows.refl [] _
  | cons p rest ih =>
    have hgrows : Grows (p :: rest) _ _ := (view.ensure_dir_grows p s).first
    rcases hensured : exec (Storage.ensureDir p : m _) s with ⟨why | _, t⟩
    · rw [hensured] at hgrows
      simpa [Storage.ensureDirs, hensured] using hgrows
    · rw [hensured] at hgrows
      simpa [Storage.ensureDirs, hensured] using hgrows.trans (ih t).others

/-- Whether a directory can be made or not, nothing but directories on its way is new. -/
theorem make_dirs_grow (p : Path) (s : σ) :
    Grows p.ancestors (view.disk s) (view.disk (exec (Storage.makeDirs p : m _) s).2) := by
  obtain ⟨hgrows, hamong⟩ := view.missing_dirs_grow p.ancestors s
  rcases hfound : exec (Storage.missingDirs p.ancestors : m _) s with ⟨why | missing, t⟩
  · rw [hfound] at hgrows
    simpa [Storage.makeDirs, hfound] using hgrows
  · rw [hfound] at hgrows hamong
    have hmade := (view.ensure_dirs_grow missing.reverse t).mono fun q hq =>
      hamong missing rfl (List.mem_reverse.mp hq)
    simpa [Storage.makeDirs, hfound] using hgrows.trans hmade

end Making

section Writing

variable {directory : Path} {s t : σ}

theorem write_text_ok {p : Path} {text : String}
    (h : exec (Storage.writeText p text : m _) s = (.ok (), t)) :
    exec (Storage.writeText p text : StateT Disk Logged _) (view.disk s) =
      (.ok (), view.disk t) := by
  have hwrite := view.writes p (Text.Utf8.encode text) s
  rw [Storage.writeText] at h ⊢
  rw [h] at hwrite
  have hdone : (view.disk s).write p (Text.Utf8.encode text) = .ok (view.disk t) := hwrite
  rw [Storage.exec_write, hdone]

theorem write_text_error {p : Path} {text : String} {why : OsError}
    (h : exec (Storage.writeText p text : m _) s = (.error why, t)) :
    view.disk t = view.disk s := by
  have hwrite := view.writes p (Text.Utf8.encode text) s
  rw [Storage.writeText] at h
  rw [h] at hwrite
  exact hwrite

/-- Files that are written are written to the disk that is seen. -/
theorem written {files : List (String × Shader)} (h : Output.Written m directory s files t) :
    Output.Written (StateT Disk Logged) directory (view.disk s) files (view.disk t) := by
  induction h with
  | nil s => exact .nil _
  | cons first others ih => exact .cons (view.write_text_ok first) ih

end Writing

end DiskView

namespace Output

section Runs

variable (m : Type → Type) [Monad m] [Storage m] [Journal m] {σ : Type} [Execution m σ]

/-- The directory is made, and then `count` files are written before one that cannot be. -/
def FailsAt (directory : Path) (planned : List (String × Shader)) (s : σ) (count : Nat)
    (file : String × Shader) (why : OsError) (t : σ) : Prop :=
  planned[count]? = some file ∧ ∃ next middle,
    exec (Storage.makeDirs directory : m _) s = (.ok (), next) ∧
    Written m directory next (planned.take count) middle ∧
    exec (Storage.writeText (place directory file) file.2.source : m _) middle = (.error why, t)

variable {m} {directory : Path} {s t : σ} {why : OsError} {file : String × Shader}

theorem write_files_stop {middle : σ} {done : List (String × Shader)}
    (hdone : Written m directory s done middle)
    (hfail : exec (Storage.writeText (place directory file) file.2.source : m _) middle =
      (.error why, t))
    (report : Report) (rest : List (String × Shader)) :
    exec (writeFiles directory report (done ++ file :: rest) : m _) s =
      ((reported directory report done, .error (.write (place directory file) why)), t) := by
  induction hdone generalizing report with
  | nil =>
    rw [place] at hfail
    simp [writeFiles, hfail, reported, place]
  | @cons s next _ first rest' hfirst others ih =>
    rw [← reported_cons, ← ih hfail]
    rw [place] at hfirst
    simp only [List.cons_append, writeFiles, exec_bind, hfirst, exec_records, place]

variable (cover : LandCover) (coverage : Option Coverage) (o : ShaderOptions) (report : Report)

theorem write_all_refused (h : exec (Storage.makeDirs directory : m _) s = (.error why, t)) :
    exec (writeAll cover coverage o directory report : m _) s =
      ((report, .error (.write directory why)), t) := by
  simp [writeAll, h]

theorem write_all_stops {count : Nat}
    (h : FailsAt m directory (files (cover.generate coverage o).value) s count file why t) :
    exec (writeAll cover coverage o directory report : m _) s =
      ((reported directory report ((files (cover.generate coverage o).value).take count),
        .error (.write (place directory file) why)), t) := by
  obtain ⟨hfile, next, middle, hmade, hdone, hfail⟩ := h
  have hsplit : files (cover.generate coverage o).value =
      (files (cover.generate coverage o).value).take count ++
        file :: (files (cover.generate coverage o).value).drop (count + 1) := by
    obtain ⟨hlt, hget⟩ := List.getElem?_eq_some_iff.mp hfile
    rw [← hget, List.getElem_cons_drop, List.take_append_drop]
  have hrun := write_files_stop hdone hfail report
    ((files (cover.generate coverage o).value).drop (count + 1))
  rw [← hsplit] at hrun
  simp [writeAll, hmade, hrun]

/-- A run that fails could not make its directory or write one of its files. -/
theorem write_all_error_cases {report' : Report} {error : GenerationError}
    (h : exec (writeAll cover coverage o directory report : m _) s = ((report', .error error), t)) :
    (∃ why, exec (Storage.makeDirs directory : m _) s = (.error why, t)) ∨
    ∃ count file why,
      FailsAt m directory (files (cover.generate coverage o).value) s count file why t := by
  have hruns := write_all_runs (m := m) directory cover coverage o report s
  rw [h] at hruns
  obtain made | @⟨next, middle, _, done, _, _, hmade, hsplit, hwritten, hends⟩ := hruns
  · exact .inl ⟨_, made⟩
  · cases hends with
    | failed rest first =>
      refine .inr ⟨done.length, _, _, by simp [hsplit], next, middle, hmade, ?_, first⟩
      rwa [hsplit, List.take_left]

end Runs

section Effects

variable {m : Type → Type} [Monad m] [Storage m] [Journal m] {σ : Type} [Execution m σ]
  {directory : Path} {generated : List LayerShaders} {s t : σ} {count : Nat} {why : OsError}
  {file later : String × Shader}

/-- A file that comes later has another name than those that were written. -/
theorem later_name_ne (hlater : later ∈ (files generated).drop count)
    (hfile : file ∈ (files generated).take count) : file.1 ≠ later.1 := by
  have hdistinct := file_names_distinct generated
  rw [← List.take_append_drop count (files generated), List.map_append] at hdistinct
  exact (List.nodup_append.mp hdistinct).2.2 _ (List.mem_map_of_mem hfile) _
    (List.mem_map_of_mem hlater)

/-- Between the state in which a run began and the one in which it failed, directories were made on
the way to the directory of the files, and the files before the failure were written. -/
theorem FailsAt.parts (view : DiskView m)
    (h : FailsAt m directory (files generated) s count file why t) :
    ∃ next, Grows directory.ancestors (view.disk s) next ∧
      Written (StateT Disk Logged) directory next ((files generated).take count) (view.disk t) := by
  obtain ⟨-, next, middle, hmade, hdone, hfail⟩ := h
  have hgrows := view.make_dirs_grow directory s
  rw [hmade] at hgrows
  refine ⟨view.disk next, hgrows, ?_⟩
  rw [view.write_text_error hfail]
  exact view.written hdone

theorem FailsAt.leaves_alone (view : DiskView m)
    (h : FailsAt m directory (files generated) s count file why t)
    (hlater : later ∈ (files generated).drop count) :
    LeavesAlone directory.ancestors (place directory later) (view.disk s) (view.disk t) := by
  obtain ⟨next, hgrows, hwritten⟩ := h.parts view
  obtain ⟨hkeeps, hsame⟩ := hwritten.frame
  have hplace (l : Location) (hl : (view.disk t).locate (place directory later) = .ok l) :
      (view.disk t).at? l = (view.disk s).at? l ∨ (view.disk s).at? l = none ∧
        (view.disk t).at? l = some .directory ∧
          ∃ q ∈ directory.ancestors, (view.disk t).locate q = .ok l := by
    -- A file that was written there would have the name of the later one.
    rw [hsame l]
    · refine (hgrows.places l).imp_right ?_
      rintro ⟨hnone, hdir, q, hq, hlocate⟩
      exact ⟨hnone, hdir, q, hq, hkeeps.locate hlocate⟩
    · intro done hdone hl'
      obtain ⟨outer, rfl⟩ := place_head (List.mem_of_mem_drop hlater) hl
      obtain ⟨outer', hsplit⟩ := place_head (List.mem_of_mem_take hdone) hl'
      exact later_name_ne hlater hdone (Text.Utf8.encode_injective (List.cons.inj hsplit).1).symm
  refine ⟨fun node hnode => ?_, hplace⟩
  obtain ⟨l, hlocate, hat⟩ := lookup_eq_ok.mp hnode
  have hlocate' := (hgrows.keeps.trans hkeeps).locate hlocate
  refine lookup_eq_ok.mpr ⟨l, hlocate', ?_⟩
  rcases hplace l hlocate' with hl | ⟨hnone, -⟩
  · rw [hl, hat]
  · rw [hnone] at hat
    cases hat

end Effects

/-- A run that fails does so at its directory, which leaves the report and every file as they were,
or at one of its files. Then the report has grown by the paths and the diagnostics of the files
before, which are on the disk, and the paths from that file on are left alone; directories that
were missing on the way to that of the files are all that can be new there. -/
theorem failed_run_reports_work_done {m : Type → Type} [Monad m] [Storage m] [Journal m] {σ : Type}
    [Execution m σ] (view : DiskView m) (cover : LandCover) (coverage : Option Coverage)
    (o : ShaderOptions) (directory : Path) (report : Report) (s : σ) :
    let planned := files (cover.generate coverage o).value
    let shaders := cover.allShaders coverage o
    let run := exec (writeAll cover coverage o directory report : m _) s
    (∀ why t, exec (Storage.makeDirs directory : m _) s = (.error why, t) →
      run = ((report, .error (.write directory why)), t) ∧
      ∀ l content, (view.disk t).at? l = some (.file content) ↔
        (view.disk s).at? l = some (.file content)) ∧
    (∀ count file why t, FailsAt m directory planned s count file why t →
      ∃ report', run = ((report', .error (.write (place directory file) why)), t) ∧
        report'.written = report.written ++ (planned.take count).map (place directory) ∧
        report'.diagnostics =
          report.diagnostics ++ (shaders.take count).flatMap Shader.diagnostics ∧
        List.Forall₂ (fun path shader =>
            (view.disk t).lookup path = .ok (.file (Text.Utf8.encode shader.source)))
          ((planned.take count).map (place directory)) (shaders.take count) ∧
        ∀ later ∈ planned.drop count,
          LeavesAlone directory.ancestors (place directory later) (view.disk s) (view.disk t)) ∧
    ∀ report' error t, run = ((report', .error error), t) →
      (∃ why, exec (Storage.makeDirs directory : m _) s = (.error why, t)) ∨
      ∃ count file why, FailsAt m directory planned s count file why t := by
  intro planned shaders run
  have hshaders (count : Nat) : shaders.take count = (planned.take count).map Prod.snd := by
    rw [List.map_take, file_shaders, cover.generate_all]
  refine ⟨?_, ?_, fun _ _ _ => write_all_error_cases cover coverage o report⟩
  · intro why t h
    refine ⟨write_all_refused cover coverage o report h, fun l content => ?_⟩
    have hgrows := view.make_dirs_grow directory s
    rw [h] at hgrows
    rcases hgrows.places l with hsame | ⟨hnone, hdir, -⟩
    · rw [hsame]
    · rw [hnone, hdir]
      simp
  · intro count file why t h
    obtain ⟨next, -, hwritten⟩ := h.parts view
    refine ⟨_, write_all_stops cover coverage o report h, rfl, ?_, ?_,
      fun later hlater => h.leaves_alone view hlater⟩
    · rw [hshaders, List.flatMap_map]
      rfl
    · rw [hshaders, List.forall₂_map_left_iff, List.forall₂_map_right_iff, List.forall₂_same]
      exact hwritten.lookup (List.take_sublist count planned)

/-- The second file of a layer cannot be written, as a directory has its name. -/
theorem failed_run_reports_work_done_occupied :
    let layer : Layer := { name := "x" }
    let cover : LandCover := { layers := [layer] }
    let directory : Path := .ofText "out"
    let out : Location := [Text.Utf8.encode "out"]
    let d : Disk := { entries :=
      [(out, .directory), (Text.Utf8.encode "x.biome_index.glsl" :: out, .directory)] }
    let file : String × Shader := ("x.biome_index.glsl", (layer.indexShader none {}).value)
    ∃ e, FailsAt (StateT Disk Logged) directory (files (cover.generate none {}).value) d 1 file
        .isDirectory e ∧
      ∃ report', exec (writeAll cover none {} directory {} : StateT Disk Logged _) d =
          ((report', .error (.write (place directory file) .isDirectory)), e) ∧
        report'.written.length = 1 ∧ report'.diagnostics = [] := by
  intro layer cover directory out d file
  let first : String × Shader := ("x.tables.glsl", (layer.tableShader {}).value)
  have hplanned : files (cover.generate none {}).value = [first, file] := by decide +kernel
  let next := (exec (Storage.makeDirs directory : StateT Disk Logged _) d).2
  let middle := (exec (Storage.writeText (place directory first) first.2.source :
    StateT Disk Logged _) next).2
  let e := (exec (Storage.writeText (place directory file) file.2.source :
    StateT Disk Logged _) middle).2
  have hmade : exec (Storage.makeDirs directory : StateT Disk Logged _) d = (.ok (), next) := by
    decide +kernel
  have hfirst : exec (Storage.writeText (place directory first) first.2.source :
      StateT Disk Logged _) next = (.ok (), middle) := by decide +kernel
  have hfail : exec (Storage.writeText (place directory file) file.2.source :
      StateT Disk Logged _) middle = (.error .isDirectory, e) := by decide +kernel
  have h : FailsAt (StateT Disk Logged) directory (files (cover.generate none {}).value) d 1 file
      .isDirectory e := by
    rw [hplanned]
    exact ⟨rfl, next, middle, hmade, .cons hfirst (.nil middle), hfail⟩
  obtain ⟨report', hrun, hwritten, hdiagnostics, hfiles, -⟩ :=
    (failed_run_reports_work_done .plain cover none {} directory {} d).2.1 1 file .isDirectory e h
  have hshaders : ((cover.allShaders none {}).take 1).flatMap Shader.diagnostics = [] := by decide
  refine ⟨e, h, report', hrun, ?_, ?_⟩
  · rw [hwritten, List.length_append, hfiles.length_eq]
    rfl
  · rw [hdiagnostics, hshaders]
    rfl

/-- A directory may lie where a file was to be written: one that was missing on the way to that of
the files, which goes up from it again. -/
theorem unwritten_path_may_become_directory :
    let layer : Layer := { name := "x" }
    let cover : LandCover := { layers := [layer] }
    let directory : Path := .ofText "x.tables.glsl/.."
    let planned := files (cover.generate none {}).value
    let file : String × Shader := ("x.tables.glsl", (layer.tableShader {}).value)
    ∃ e, FailsAt (StateT Disk Logged) directory planned {} 0 file .isDirectory e ∧
      Disk.lookup {} (place directory file) = .error .notFound ∧
      e.lookup (place directory file) = .ok .directory := by
  intro layer cover directory planned file
  let next := (exec (Storage.makeDirs directory : StateT Disk Logged _) {}).2
  have hmade : exec (Storage.makeDirs directory : StateT Disk Logged _) {} = (.ok (), next) := by
    decide +kernel
  have hfail : exec (Storage.writeText (place directory file) file.2.source :
      StateT Disk Logged _) next = (.error .isDirectory, next) := by decide +kernel
  have hfile : planned[0]? = some file := by decide +kernel
  refine ⟨next, ⟨hfile, next, next, hmade, .nil next, hfail⟩, ?_, ?_⟩
  · decide +kernel
  · decide +kernel

end Output

end Groundcover
