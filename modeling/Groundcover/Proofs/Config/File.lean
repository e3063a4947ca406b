import Groundcover.Config.File
import Groundcover.Proofs.Config.Text
import Groundcover.Proofs.Ways
import Groundcover.Proofs.Writing

/-!
The configuration file of a directory, over its whole life. What is saved is loaded again, and a
file that is found stays as it is. The search comes before the directories on the way are made,
though: a path that goes up again behind a missing directory leads to a file that was not found.
-/

namespace Groundcover

open Execution Disk Groundcover.Path

namespace Config

variable {d e : Disk} {directory file : Path} {c : Config} {text : String}

/-- Loading a configuration leaves the disk as it is. -/
theorem load_keeps (file : Path) (d : Disk) :
    (exec (Config.load file : StateT Disk Logged _) d).2 = d := by
  obtain ⟨answer, hread, -⟩ := Storage.read_text_spec file d
  rcases answer with why | text
  · simp [load, hread]
  · cases hparse : Config.ofText text <;> simp [load, hread, hparse]

theorem load_text (hfile : d.lookup file = .ok (.file (Text.Utf8.encode text)))
    (hparse : Config.ofText text = .ok c) :
    exec (Config.load file : StateT Disk Logged _) d = (.ok c, d) := by
  obtain ⟨answer, hread, htext⟩ := Storage.read_text_spec file d
  obtain rfl := (htext text).mpr hfile
  simp [load, hread, hparse]

/-- A file that is found is loaded; without one the defaults are saved. -/
theorem exec_load_or_create (directory : Path) (d : Disk) :
    exec (loadOrCreate directory : StateT Disk Logged _) d =
      match d.lookup (fileIn directory) with
      | .ok _ => exec (load (fileIn directory) : StateT Disk Logged _) d
      | .error _ =>
        match exec (save {} directory : StateT Disk Logged _) d with
        | (.error why, e) => (.error why, e)
        | (.ok (), e) => (.ok {}, e) := by
  cases hfound : d.lookup (fileIn directory) with
  | ok node => simp [loadOrCreate, Storage.pathExists, hfound]
  | error why =>
    rcases hsave : exec (save {} directory : StateT Disk Logged _) d with ⟨why | _, e⟩ <;>
      simp [loadOrCreate, Storage.pathExists, hfound, hsave]

/-- Saving makes the directory. If that fails, or the file cannot be written,
nothing else changes. -/
theorem save_spec (c : Config) (directory : Path) (d : Disk) :
    ∃ next, Grows directory.ancestors d next ∧
      ((∃ why, exec (c.save directory : StateT Disk Logged _) d = (.error why, next)) ∨
        ∃ text e, c.text? = some text ∧
          exec (Storage.writeText (fileIn directory) text : StateT Disk Logged _) next =
            (.ok (), e) ∧
          exec (c.save directory : StateT Disk Logged _) d = (.ok (), e)) := by
  obtain ⟨answer, next, hmade, hgrows, -⟩ := Storage.make_dirs_spec directory d
  refine ⟨next, hgrows, ?_⟩
  rcases answer with why | _
  · exact .inl ⟨.write why, by simp [save, hmade]⟩
  · cases htext : c.text? with
    | none => exact .inl ⟨.serialize, by simp [save, hmade, htext]⟩
    | some text =>
      rcases hwrite : exec (Storage.writeText (fileIn directory) text : StateT Disk Logged _) next
        with ⟨why | _, e⟩
      · obtain rfl := Output.write_text_error hwrite
        exact .inl ⟨.write why, by simp [save, hmade, htext, hwrite]⟩
      · exact .inr ⟨text, e, rfl, hwrite, by simp [save, hmade, htext, hwrite]⟩

/-- The text of a configuration that was saved is in its file, and nothing else is different but
directories that were missing on the way. -/
theorem save_ok (h : exec (c.save directory : StateT Disk Logged _) d = (.ok (), e)) :
    ∃ text next place, c.text? = some text ∧ Grows directory.ancestors d next ∧ next.Keeps e ∧
      e.locate (fileIn directory) = .ok place ∧ e.at? place = some (.file (Text.Utf8.encode text)) ∧
      ∀ l, l ≠ place → e.at? l = next.at? l := by
  obtain ⟨next, hgrows, ⟨why, hfailed⟩ | ⟨text, reached, htext, hwrite, hsaved⟩⟩ :=
    c.save_spec directory d
  · rw [h] at hfailed
    cases hfailed
  · rw [h] at hsaved
    cases hsaved
    obtain ⟨hkeeps, place, hlocate, hat, hsame⟩ := Output.write_text_ok hwrite
    exact ⟨text, next, place, htext, hgrows, hkeeps, hlocate, hat, hsame⟩

/-- What was saved is loaded again. -/
theorem load_saved (h : exec (c.save directory : StateT Disk Logged _) d = (.ok (), e)) :
    exec (loadOrCreate directory : StateT Disk Logged _) e = (.ok c, e) := by
  obtain ⟨text, -, place, htext, -, -, hlocate, hat, -⟩ := save_ok h
  have hfile : e.lookup (fileIn directory) = .ok (.file (Text.Utf8.encode text)) :=
    lookup_eq_ok.mpr ⟨place, hlocate, hat⟩
  rw [exec_load_or_create, hfile]
  exact load_text hfile (of_text_of_text htext)

theorem file_is_plain : IsPlainName (Path.ofText "config.ron").bytes :=
  .of_bytes (by decide) (by decide) (by decide)

/-- In a tree, a file of a directory that is named without going up is found where it is. -/
theorem found_in_tree (ht : d.IsTree) (hup : ∀ name ∈ directory.names, isUp name = false)
    (hhere : e.here = d.here) {place : Location} (hplace : e.locate (fileIn directory) = .ok place)
    {node : Node} (hat : d.at? place = some node) : d.lookup (fileIn directory) = .ok node := by
  obtain ⟨outer, hnames, hdirectory⟩ := join_names file_is_plain directory
  obtain ⟨hp, hleads⟩ := follow_eq_ok.mp hplace
  have horigin : e.origin (fileIn directory) = d.origin (fileIn directory) := by
    rw [origin, origin, hhere]
  have houter : ∀ name ∈ outer, isUp name = false := by
    intro name hname
    refine hup name ?_
    rcases hdirectory with hd | hd <;> rw [hd]
    · exact hname
    · exact List.mem_append_left [[]] hname
  rw [fileIn, hnames, ← fileIn, horigin] at hleads
  obtain ⟨around, hway, hlast⟩ := leads_append.mp hleads
  obtain ⟨next, hstep, hend⟩ := leads_cons.mp hlast
  obtain rfl := leads_nil.mp hend
  obtain rfl := step_plain file_is_plain hstep
  -- The place lies in a directory, so the way there is one of directories all along.
  have haround : d.at? around = some .directory :=
    ht (Path.ofText "config.ron").bytes around (by simp [hat])
  have hsame : d.step around (Path.ofText "config.ron").bytes =
      e.step around (Path.ofText "config.ron").bytes :=
    step_of_place (haround.trans (directory_of_step hstep).symm) _
  have hlocate :
      d.locate (fileIn directory) = .ok ((Path.ofText "config.ron").bytes :: around) := by
    refine follow_eq_ok.mpr ⟨hp, ?_⟩
    rw [fileIn, hnames, ← fileIn]
    exact leads_append.mpr ⟨around, ht.leads haround hway houter,
      leads_cons.mpr ⟨_, hsame.trans hstep, leads_nil.mpr rfl⟩⟩
  exact lookup_eq_ok.mpr ⟨_, hlocate, hat⟩

/-- What is different after a file with the defaults was made: the place of the file, and
directories that were missing on the way there. In a tree, that place was empty if the path
does not go up. -/
structure Created (directory : Path) (d e : Disk) (place : Location) : Prop where
  located : e.locate (fileIn directory) = .ok place
  defaults : ∃ text, ({} : Config).text? = some text ∧
    e.at? place = some (.file (Text.Utf8.encode text))
  here : e.here = d.here
  others : ∀ l, l ≠ place → e.at? l = d.at? l ∨
    d.at? l = none ∧ e.at? l = some .directory ∧ ∃ p ∈ directory.ancestors, e.locate p = .ok l
  fresh : d.IsTree → (∀ name ∈ directory.names, isUp name = false) → d.at? place = none

/-- Saving the defaults where no file was found creates one. -/
theorem save_creates {why : OsError} (hmissing : d.lookup (fileIn directory) = .error why)
    (h : exec (save {} directory : StateT Disk Logged _) d = (.ok (), e)) :
    ∃ place, Created directory d e place := by
  obtain ⟨text, next, place, htext, hgrows, hkeeps, hlocate, hat, hsame⟩ := save_ok h
  have hhere : e.here = d.here := hkeeps.here.trans hgrows.here
  refine ⟨place, hlocate, ⟨text, htext, hat⟩, hhere, fun l hl => ?_, fun ht hup => ?_⟩
  · rw [hsame l hl]
    refine (hgrows.places l).imp_right ?_
    rintro ⟨hnone, hdir, p, hp, hplace⟩
    exact ⟨hnone, hdir, p, hp, hkeeps.locate hplace⟩
  · cases hplace : d.at? place with
    | none => rfl
    | some node =>
      rw [found_in_tree ht hup hhere hlocate hplace] at hmissing
      cases hmissing

end Config

/-- A configuration comes back from its file as it was saved, whatever its settings are. Loading
leaves the disk as it is when the file is found, whatever is in it. When none is found and
loading succeeds, it returns the defaults, has made a file of them, and does the same once more
without a change. -/
theorem config_file_is_kept (directory : Path) (d : Disk) :
    (∀ c e, exec (Config.save c directory : StateT Disk Logged _) d = (.ok (), e) →
      exec (Config.loadOrCreate directory : StateT Disk Logged _) e = (.ok c, e)) ∧
    (∀ node, d.lookup (Config.fileIn directory) = .ok node →
      (exec (Config.loadOrCreate directory : StateT Disk Logged _) d).2 = d) ∧
    ∀ why c e, d.lookup (Config.fileIn directory) = .error why →
      exec (Config.loadOrCreate directory : StateT Disk Logged _) d = (.ok c, e) →
      c = {} ∧ (∃ place, Config.Created directory d e place) ∧
        exec (Config.loadOrCreate directory : StateT Disk Logged _) e = (.ok c, e) := by
  refine ⟨fun c e => Config.load_saved, fun node hfound => ?_, fun why c e hmissing hloaded => ?_⟩
  · rw [Config.exec_load_or_create, hfound]
    exact Config.load_keeps _ d
  · rw [Config.exec_load_or_create, hmissing] at hloaded
    rcases hsave : exec (Config.save {} directory : StateT Disk Logged _) d with ⟨_ | _, _⟩
    · rw [hsave] at hloaded
      cases hloaded
    · rw [hsave] at hloaded
      cases hloaded
      exact ⟨rfl, Config.save_creates hmissing hsave, Config.load_saved hsave⟩

/-- Up from a missing directory, a file is not found that is there, and it is lost
to the defaults. -/
theorem config_is_lost_behind_missing_directory :
    let place : Location := [Text.Utf8.encode "config.ron"]
    let kept : Node := .file (Text.Utf8.encode "(generator:(glsl_version:100))")
    let d : Disk := { entries := [(place, kept)] }
    let loaded := exec (Config.loadOrCreate (.ofText "n/..") : StateT Disk Logged _) d
    d.lookup (Config.fileIn (.ofText "n/..")) = .error .notFound ∧ d.at? place = some kept ∧
      loaded.1 = .ok {} ∧ loaded.2.at? place ≠ some kept := by
  decide +kernel

end Groundcover
