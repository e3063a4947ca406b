import Groundcover.Proofs.Congruence
import Groundcover.Terminal

/-!
Computations with a log, played on a terminal: the records are shown one after the other, and what
is computed stays the same. A part of the generator is itself when it is played, so all that is
known of its answers and of the disks that it leaves holds in front of a terminal too.
-/

namespace Groundcover

/-- A way to play the computations of one kind as those of another. -/
class Playback (m n : Type → Type) [Monad m] [Journal m] [Monad n] [Journal n] where
  play : {α : Type} → m α → n α
  play_pure : ∀ {α : Type} (a : α), play (pure a : m α) = pure a
  play_bind : ∀ {α β : Type} (x : m α) (f : α → m β),
    play (x >>= f) = play x >>= fun a => play (f a)
  play_note : ∀ r : Record, play (Journal.note r : m Unit) = Journal.note r

/-- The terminal shows the records in their order. -/
instance : Playback Logged (StateM Terminal) where
  play x := fun t => (x.value, x.records.foldl Terminal.log t)
  play_pure _ := rfl
  play_bind _ _ := funext fun _ => congrArg (Prod.mk _) List.foldl_append
  play_note _ := rfl

section Playing

variable {m n : Type → Type} [Monad m] [Journal m] [Monad n] [Journal n]

instance {σ : Type} [Playback m n] : Playback (StateT σ m) (StateT σ n) where
  play x := fun s => Playback.play (x.run s)
  play_pure a := funext fun s => Playback.play_pure (a, s)
  play_bind x f := funext fun s => Playback.play_bind (x.run s) fun a => (f a.1).run a.2
  play_note r := funext fun s => by
    refine (Playback.play_bind (Journal.note r) fun u => pure (u, s)).trans ?_
    simp only [Playback.play_note, Playback.play_pure]
    rfl

variable [Playback m n] {α β σ : Type}

/-- One computation, when it is played, is the other one. -/
def Plays (x : m α) (y : n α) : Prop := Playback.play x = y

namespace Plays

theorem done (a : α) : Plays (pure a : m α) (pure a : n α) := Playback.play_pure a

theorem andThen {x : m α} {y : n α} {f : α → m β} {g : α → n β} (hx : Plays x y)
    (hf : ∀ a, Plays (f a) (g a)) : Plays (x >>= f) (y >>= g) := by
  rw [Plays, Playback.play_bind, hx]
  exact congrArg _ (funext hf)

theorem note (r : Record) : Plays (Journal.note r : m Unit) (Journal.note r : n Unit) :=
  Playback.play_note r

/-- Playing is kept by every way to build a computation. -/
def congruence : Congruence m n := ⟨Plays, done, andThen, note⟩

theorem get : Plays (get : StateT σ m σ) (get : StateT σ n σ) :=
  funext fun s => Playback.play_pure (s, s)

theorem set (s : σ) : Plays (set s : StateT σ m PUnit) (set s : StateT σ n PUnit) :=
  funext fun _ => Playback.play_pure (PUnit.unit, s)

theorem lift {x : m α} {y : n α} (h : Plays x y) :
    Plays (StateT.lift x : StateT σ m α) (StateT.lift y : StateT σ n α) :=
  funext fun s => h.andThen fun a => done (a, s)

theorem run {x : StateT σ m α} {y : StateT σ n α} (h : Plays x y) (s : σ) :
    Plays (x.run s) (y.run s) := congrFun h s

end Plays

end Playing

/-- A way to play computations in which files and directories are used alike. -/
class StoragePlayback (m n : Type → Type) [Monad m] [Storage m] [Journal m] [Monad n] [Storage n]
    [Journal n] extends Playback m n where
  opens : ∀ p : Path, Plays (Storage.openNode p : m _) (Storage.openNode p : n _)
  makes : ∀ p : Path, Plays (Storage.makeDir p : m _) (Storage.makeDir p : n _)
  writes : ∀ (p : Path) (content : List UInt8),
    Plays (Storage.write p content : m _) (Storage.write p content : n _)

section Disks

variable {m n : Type → Type} [Monad m] [Journal m] [Monad n] [Journal n] [Playback m n]

theorem Disk.change_plays (operation : Disk → Except OsError Disk) :
    Plays (change operation : StateT Disk m _) (change operation : StateT Disk n _) := by
  refine Plays.get.andThen ?_
  intro d
  cases operation d with
  | ok e => exact (Plays.set e).andThen fun _ => .done _
  | error why => exact .done _

instance : StoragePlayback (StateT Disk m) (StateT Disk n) where
  opens _ := Plays.get.andThen fun _ => .done _
  makes _ := Disk.change_plays _
  writes _ _ := Disk.change_plays _

end Disks

section Parts

variable {m n : Type → Type} [Monad m] [Storage m] [Journal m] [Monad n] [Storage n] [Journal n]
  [StoragePlayback m n]

instance {σ : Type} : StoragePlayback (StateT σ m) (StateT σ n) where
  opens p := Plays.lift (StoragePlayback.opens p)
  makes p := Plays.lift (StoragePlayback.makes p)
  writes p content := Plays.lift (StoragePlayback.writes p content)

namespace Storage

theorem path_exists_plays (p : Path) : Plays (pathExists p : m _) (pathExists p : n _) := by
  refine (StoragePlayback.opens p).andThen ?_
  intro answer
  cases answer <;> exact .done _

theorem is_directory_plays (p : Path) : Plays (isDirectory p : m _) (isDirectory p : n _) := by
  refine (StoragePlayback.opens p).andThen ?_
  intro answer
  split <;> exact .done _

theorem read_text_plays (p : Path) : Plays (readText p : m _) (readText p : n _) :=
  Plays.congruence.read_text (StoragePlayback.opens p)

theorem ensure_dir_plays (p : Path) : Plays (ensureDir p : m _) (ensureDir p : n _) := by
  refine (StoragePlayback.makes p).andThen ?_
  intro answer
  split
  · exact .done _
  · refine (is_directory_plays p).andThen ?_
    intro there
    split <;> exact .done _
  · exact .done _

theorem missing_dirs_plays (paths : List Path) :
    Plays (missingDirs paths : m _) (missingDirs paths : n _) := by
  induction paths with
  | nil => exact .done _
  | cons p outer ih =>
    unfold missingDirs
    split
    · exact .done _
    · refine (ensure_dir_plays p).andThen ?_
      intro answer
      split
      · exact .done _
      · refine ih.andThen ?_
        intro inner
        split <;> exact .done _
      · exact .done _

theorem ensure_dirs_plays (paths : List Path) :
    Plays (ensureDirs paths : m _) (ensureDirs paths : n _) := by
  induction paths with
  | nil => exact .done _
  | cons p rest ih =>
    refine (ensure_dir_plays p).andThen ?_
    intro answer
    split
    · exact ih
    · exact .done _

theorem make_dirs_plays (p : Path) : Plays (makeDirs p : m _) (makeDirs p : n _) := by
  refine (missing_dirs_plays p.ancestors).andThen ?_
  intro answer
  split
  · exact .done _
  · exact ensure_dirs_plays _

end Storage

namespace Config

theorem save_plays (c : Config) (directory : Path) :
    Plays (c.save directory : m _) (c.save directory : n _) := by
  refine (Storage.make_dirs_plays directory).andThen ?_
  intro made
  split
  · exact .done _
  · split
    · exact .done _
    · refine (StoragePlayback.writes _ _).andThen ?_
      intro written
      split <;> exact .done _

theorem load_plays (file : Path) : Plays (load file : m _) (load file : n _) := by
  refine (Storage.read_text_plays file).andThen ?_
  intro text
  split
  · exact .done _
  · split
    · exact .done _
    · exact (Plays.note _).andThen fun _ => .done _

theorem load_or_create_plays (directory : Path) :
    Plays (loadOrCreate directory : m _) (loadOrCreate directory : n _) := by
  refine (Storage.path_exists_plays _).andThen ?_
  intro there
  split
  · exact load_plays _
  · refine (save_plays {} directory).andThen ?_
    intro saved
    split
    · exact .done _
    · exact (Plays.note _).andThen fun _ => .done _

end Config

theorem ImageCache.load_plays (base : Path) (url : String) :
    Plays (load base url : StateT ImageCache m _) (load base url : StateT ImageCache n _) := by
  refine Plays.get.andThen ?_
  intro cache
  split
  · exact .done _
  · refine (Plays.note _).andThen fun _ => ?_
    have hsize := Plays.congruence.size_of_file (StoragePlayback.opens (m := StateT ImageCache m)
      (n := StateT ImageCache n) (base.join (.ofText url)))
    refine Plays.andThen hsize ?_
    intro size
    split
    · exact .done _
    · exact Plays.get.andThen fun cache => (Plays.set _).andThen fun _ => .done _

theorem GeneratorConfig.images_beside_play (manifest : Path) (url : String) :
    Plays (imagesBeside manifest url : StateT ImageCache m _)
      (imagesBeside manifest url : StateT ImageCache n _) := by
  refine (ImageCache.load_plays _ url).andThen ?_
  intro loaded
  split <;> exact .done _

end Parts

section Generating

variable {m n : Type → Type} [Monad m] [Storage m] [Journal m] [Monad n] [Storage n] [Journal n]
  [StoragePlayback m n]

namespace Output

theorem write_files_plays (directory : Path) (report : Report) (files : List (String × Shader)) :
    Plays (writeFiles directory report files : m _) (writeFiles directory report files : n _) := by
  induction files generalizing report with
  | nil => exact .done _
  | cons file rest ih =>
    refine (StoragePlayback.writes _ _).andThen ?_
    intro written
    split
    · exact .done _
    · exact Plays.andThen (Plays.congruence.notes id _) fun _ => ih _

variable [LawfulMonad m] [LawfulMonad n]

theorem write_all_plays (cover : LandCover) (coverage : Option Coverage) (o : ShaderOptions)
    (directory : Path) (report : Report) :
    Plays (writeAll cover coverage o directory report : m _)
      (writeAll cover coverage o directory report : n _) := by
  refine (Storage.make_dirs_plays directory).andThen ?_
  intro made
  split
  · exact .done _
  · exact Plays.congruence.tell_then (write_files_plays directory report _)

end Output

variable [LawfulMonad m] [LawfulMonad n]

theorem GeneratorConfig.run_plays (c : GeneratorConfig) : Plays (c.run : m _) (c.run : n _) := by
  have hproduce : Plays (c.produce : m _) (c.produce : n _) := by
    unfold produce
    split
    · exact .done _
    · rename_i file _
      have hload := Plays.congruence.load_manifest (StoragePlayback.opens (m := m) (n := n) file)
      refine Plays.andThen hload ?_
      intro loaded
      split
      · exact .done _
      · rename_i manifest
        have hconfigure := Plays.congruence.configure manifest [] fun url _ =>
          images_beside_play (m := m) (n := n) file url
        refine (Plays.run hconfigure {}).andThen ?_
        intro configured
        obtain ⟨⟨why | cover, raised⟩, cache⟩ := configured
        · exact .done _
        · refine (Output.write_all_plays _ _ _ _ _).andThen ?_
          intro written
          obtain ⟨report, why | _⟩ := written <;> exact .done _
  refine hproduce.andThen ?_
  intro produced
  split <;> exact .done _

end Generating

end Groundcover
