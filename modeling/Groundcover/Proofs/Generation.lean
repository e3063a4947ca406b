import Groundcover.Proofs.Images
import Groundcover.Proofs.Warnings

/-!
Whole generations on a disk. What a report says about warnings can be counted from the manifest and
the images next to it, and denying warnings decides about the report alone, when all is written.
-/

namespace Groundcover

open Execution Diagnostics

variable {d e : Disk}

/-- Loading a manifest leaves the disk as it is; what was loaded is in the text of the file. -/
theorem Manifest.load_spec (file : Path) (d : Disk) :
    ∃ answer, exec (Manifest.load file : StateT Disk Logged _) d = (answer, d) ∧
      ∀ manifest, answer = .ok manifest → ∃ text : String,
        d.lookup file = .ok (.file (Text.Utf8.encode text)) ∧
          Manifest.ofText text = .ok manifest := by
  obtain ⟨answer, hread, htext⟩ := Storage.read_text_spec file d
  rcases answer with why | text
  · exact ⟨.error (.read why), by simp [load, hread], nofun⟩
  · cases hparse : Manifest.ofText text with
    | error why => exact ⟨.error (.parse why), by simp [load, hread, hparse], nofun⟩
    | ok manifest =>
      refine ⟨.ok manifest, by simp [load, hread, hparse], ?_⟩
      rintro _ ⟨⟩
      exact ⟨text, (htext text).mp rfl, hparse⟩

/-- A manifest is loaded from a file that holds its text. -/
theorem Manifest.load_text {file : Path} {text : String} {manifest : Manifest}
    (hfile : d.lookup file = .ok (.file (Text.Utf8.encode text)))
    (hparse : Manifest.ofText text = .ok manifest) :
    exec (Manifest.load file : StateT Disk Logged _) d = (.ok manifest, d) := by
  obtain ⟨answer, hread, htext⟩ := Storage.read_text_spec file d
  obtain rfl := (htext text).mpr hfile
  simp [load, hread, hparse]

namespace GeneratorConfig

/-- A generation ends early for no reason of warnings; else it has configured the land cover of its
manifest and written all of it. -/
theorem produce_spec (c : GeneratorConfig) (d : Disk) :
    (∃ why e, exec (c.produce : StateT Disk Logged _) d = (.error why, e) ∧
      ∀ n, why ≠ .warningsDenied n) ∨
    (∃ (file : Path) (text : String) (manifest : Manifest) (cover : LandCover)
        (raised : Diagnostics) (cache : ImageCache) (reached : Disk) (report : Report) (e : Disk),
      c.manifest = some file ∧ d.lookup file = .ok (.file (Text.Utf8.encode text)) ∧
      Manifest.ofText text = .ok manifest ∧
      exec (LandCover.configure (imagesBeside file) manifest [] :
        StateT ImageCache (StateT Disk Logged) _) ({}, d) = ((.ok cover, raised), cache, reached) ∧
      exec (Output.writeAll cover (some manifest.coverage) c.options c.outputDir ⟨[], raised⟩ :
        StateT Disk Logged _) reached = ((report, .ok ()), e) ∧
      exec (c.produce : StateT Disk Logged _) d = (.ok report, e)) := by
  cases hfile : c.manifest with
  | none => exact .inl ⟨.noManifest, d, by simp [produce, hfile], nofun⟩
  | some file =>
    obtain ⟨loaded, hload, hmanifest⟩ := Manifest.load_spec file d
    rcases loaded with why | manifest
    · exact .inl ⟨.manifest why, d, by simp [produce, hfile, hload], nofun⟩
    · obtain ⟨text, htext, hparse⟩ := hmanifest manifest rfl
      rcases hconfigure : exec (LandCover.configure (imagesBeside file) manifest [] :
        StateT ImageCache (StateT Disk Logged) _) ({}, d)
        with ⟨⟨why | cover, raised⟩, cache, reached⟩
      · exact .inl ⟨.duplicateResource why, reached,
          by simp [produce, hfile, hload, exec_run, hconfigure], nofun⟩
      · rcases hwrite : exec (Output.writeAll cover (some manifest.coverage) c.options c.outputDir
          ⟨[], raised⟩ : StateT Disk Logged _) reached with ⟨⟨report, why | _⟩, e⟩
        · refine .inl ⟨why, e, by simp [produce, hfile, hload, exec_run, hconfigure, hwrite], ?_⟩
          obtain ⟨path, why, rfl⟩ := Output.write_all_error hwrite
          exact nofun
        · exact .inr ⟨file, text, manifest, cover, raised, cache, reached, report, e, rfl, htext,
            hparse, hconfigure, hwrite,
            by simp [produce, hfile, hload, exec_run, hconfigure, hwrite]⟩

/-- A run has the same effects as generation without a verdict. -/
theorem exec_verdict (c : GeneratorConfig) (d : Disk) :
    exec (c.run : StateT Disk Logged _) d =
      match exec (c.produce : StateT Disk Logged _) d with
      | (.error why, e) => (.error why, e)
      | (.ok report, e) => (c.verdict report, e) := by
  rcases hproduce : exec (c.produce : StateT Disk Logged _) d with ⟨why | report, e⟩ <;>
    simp [run, hproduce]

end GeneratorConfig

/-- The warnings of land cover that was configured from a manifest, with the images on a disk. -/
theorem Manifest.configured_warns {manifest : Manifest} {file : Path} {cover : LandCover}
    {raised : Diagnostics} {finish : ImageCache × Disk}
    (h : exec (LandCover.configure (GeneratorConfig.imagesBeside file) manifest [] :
      StateT ImageCache (StateT Disk Logged) _) ({}, d) = ((.ok cover, raised), finish)) :
    Warns (manifest.dropped (fun url => d.hasImage (file.imageBeside url)) +
        manifest.invalidDensities + manifest.invalidFills) raised ∧
      cover.layers.length = manifest.layers.length ∧
      (manifest.biomes.map fun b => ClassList.names b.classes) =
        (cover.layers.flatMap Layer.biomes).map Biome.classes := by
  obtain ⟨layers, rfl, rfl, hlayers, hasked⟩ := LandCover.configure_ok h
  obtain ⟨-, hanswered⟩ :=
    (images_beside_serves file d).asked ⟨rfl, ImageCache.fits_empty d file⟩ hasked
  refine ⟨entries_warn hlayers hanswered, ?_, entries_classes hlayers⟩
  rw [List.length_map, hlayers.length_eq]

/-- The report of a generation has the warnings of its manifest, and the notices of what is missing
there. -/
theorem Manifest.report_warns {c : GeneratorConfig} {manifest : Manifest} {file : Path}
    {cover : LandCover} {raised : Diagnostics} {finish : ImageCache × Disk} {report : Report}
    {reached : Disk}
    (hconfigure : exec (LandCover.configure (GeneratorConfig.imagesBeside file) manifest [] :
      StateT ImageCache (StateT Disk Logged) _) ({}, d) = ((.ok cover, raised), finish))
    (hwrite : exec (Output.writeAll cover (some manifest.coverage) c.options c.outputDir
      ⟨[], raised⟩ : StateT Disk Logged _) reached = ((report, .ok ()), e)) :
    report.warningCount = manifest.dropped (fun url => d.hasImage (file.imageBeside url)) +
        manifest.invalidDensities + manifest.invalidFills + manifest.classWarnings ∧
      report.diagnostics.filter (fun d => !d.isWarning) = manifest.notices := by
  obtain ⟨hraised, hlayers, hclasses⟩ := configured_warns hconfigure
  obtain ⟨hcount, hnotices⟩ := manifest.shaders_warn c.options hlayers hclasses
  obtain ⟨-, -, -, hreport⟩ := Output.write_all_ok hwrite
  have hdiagnostics : report.diagnostics = raised ++
      (cover.allShaders (some manifest.coverage) c.options).flatMap Shader.diagnostics := by
    rw [hreport, Output.reported_diagnostics]
  constructor
  · rw [Report.warningCount, hdiagnostics, warningCount, List.countP_append]
    exact congrArg₂ (· + ·) hraised.warning_count hcount
  · rw [hdiagnostics, List.filter_append, hraised.no_notices, List.nil_append, hnotices]

/-- Warnings are counted exactly: one for each symbol that is left out, for each parameter out of
range, and two for each class and each row that is of no use; the notices of missing classification
are apart from them. To deny warnings changes nothing on the disk, and nothing else unless there are
some. -/
theorem denied_warnings_are_exact (c : GeneratorConfig) (d : Disk) :
    let run (deny : Bool) :=
      exec (({ c with denyWarnings := deny } : GeneratorConfig).run : StateT Disk Logged _) d
    (run true).2 = (run false).2 ∧
      match (run false).1 with
      | .error why => (run true).1 = .error why ∧ ∀ n, why ≠ .warningsDenied n
      | .ok report =>
        (run true).1 = (if report.warningCount = 0 then .ok report
          else .error (.warningsDenied report.warningCount)) ∧
        ∃ (file : Path) (text : String) (manifest : Manifest),
          c.manifest = some file ∧ d.lookup file = .ok (.file (Text.Utf8.encode text)) ∧
          Manifest.ofText text = .ok manifest ∧
          report.warningCount =
            manifest.dropped (fun url => d.hasImage (file.imageBeside url)) +
              manifest.invalidDensities + manifest.invalidFills + manifest.classWarnings ∧
          report.diagnostics.filter (fun d => !d.isWarning) = manifest.notices := by
  intro run
  have hrun (deny : Bool) : run deny = match exec (c.produce : StateT Disk Logged _) d with
      | (.error why, e) => (.error why, e)
      | (.ok report, e) =>
        (({ c with denyWarnings := deny } : GeneratorConfig).verdict report, e) :=
    GeneratorConfig.exec_verdict _ d
  rcases c.produce_spec d with ⟨why, e, hproduce, hwhy⟩ | ⟨file, text, manifest, cover, raised,
    cache, reached, report, e, hfile, htext, hparse, hconfigure, hwrite, hproduce⟩
  · simp only [hrun, hproduce]
    exact ⟨trivial, trivial, hwhy⟩
  · simp only [hrun, hproduce, GeneratorConfig.verdict, Bool.false_eq_true, false_and, if_false,
      true_and]
    refine ⟨?_, file, text, manifest, hfile, htext, hparse, Manifest.report_warns hconfigure hwrite⟩
    by_cases hnone : report.warningCount = 0
    · simp [hnone]
    · simp [hnone, Nat.pos_of_ne_zero hnone]

/-- One class has a row without a value and the other has none; each is told twice. -/
example :
    let text := "(legend:Some([(class:\"a\")]),coverage:Some((sampler:\"s\",matrix:\"m\")),"
      ++ "layers:[(biomes:[(classes:\"a b\")])])"
    let d : Disk := { entries := [([Text.Utf8.encode "m"], .file (Text.Utf8.encode text))] }
    let c : GeneratorConfig := { manifest := some (.ofText "m"), denyWarnings := true }
    (exec (c.run : StateT Disk Logged _) d).1 = .error (.warningsDenied 4) := by
  decide +kernel

end Groundcover
