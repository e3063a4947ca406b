import Groundcover.Generation
import Groundcover.Proofs.Configuration

/-!
Relations between computations that are kept when computations are put together. Reading files and
building land cover are related as soon as what they are put together from is: opening a file, and
loading the images that the manifest needs.
-/

namespace Groundcover

/-- A relation between computations of two kinds that is kept by every way to build them. -/
structure Congruence (m n : Type → Type) [Monad m] [Journal m] [Monad n] [Journal n] where
  Rel : {α : Type} → m α → n α → Prop
  done : ∀ {α : Type} (a : α), Rel (pure a) (pure a)
  andThen : ∀ {α β : Type} {x : m α} {y : n α} {f : α → m β} {g : α → n β}, Rel x y →
    (∀ a, Rel (f a) (g a)) → Rel (x >>= f) (y >>= g)
  note : ∀ r : Record, Rel (Journal.note r) (Journal.note r)

namespace Congruence

variable {m n : Type → Type} [Monad m] [Journal m] [Monad n] [Journal n] (C : Congruence m n)
  {α β : Type}

theorem notes (record : α → Record) (items : List α) :
    C.Rel (items.forM fun a => (Journal.note (record a) : m Unit))
      (items.forM fun a => (Journal.note (record a) : n Unit)) := by
  induction items with
  | nil => exact C.done ()
  | cons a items ih => exact C.andThen (C.note _) fun _ => ih

section Reading

variable [Storage m] [Storage n] {p : Path}
  (h : C.Rel (Storage.openNode p : m _) (Storage.openNode p : n _))
include h

theorem read_text : C.Rel (Storage.readText p : m _) (Storage.readText p : n _) := by
  have hbytes : C.Rel (Storage.readBytes p : m _) (Storage.readBytes p : n _) := by
    refine C.andThen h ?_
    intro opened
    split <;> exact C.done _
  refine C.andThen hbytes ?_
  intro content
  split
  · exact C.done _
  · split <;> exact C.done _

theorem load_manifest : C.Rel (Manifest.load p : m _) (Manifest.load p : n _) := by
  refine C.andThen (C.read_text h) ?_
  intro text
  split
  · exact C.done _
  · split
    · exact C.done _
    · exact C.andThen (C.note _) fun _ => C.done _

theorem size_of_file : C.Rel (ImageCache.sizeOfFile p : m _) (ImageCache.sizeOfFile p : n _) := by
  refine C.andThen h ?_
  intro opened
  split
  · exact C.done _
  · split
    · exact C.done _
    · split
      · exact C.done _
      · split <;> exact C.done _

end Reading

variable {load : ImageLoader m} {load' : ImageLoader n} {library : Option Library}

theorem place {s : Symbol} (h : ∀ url ∈ s.url? library, C.Rel (load url) (load' url)) :
    C.Rel (s.place load library) (s.place load' library) := by
  unfold Symbol.place
  cases hb : s.billboard? with
  | none => exact C.done _
  | some b =>
    cases hr : b.resolve library with
    | error fault => simpa only [hr] using C.done _
    | ok r =>
      have hurl : r.url ∈ s.url? library := by simp [Symbol.url?, hb, hr, Except.toOption]
      simp only [hr]
      refine C.andThen (h r.url hurl) ?_
      intro answer
      split <;> exact C.done _

theorem place_logged {s : Symbol} (h : ∀ url ∈ s.url? library, C.Rel (load url) (load' url)) :
    C.Rel (s.placeLogged load library) (s.placeLogged load' library) := by
  refine C.andThen (C.place h) ?_
  intro outcome
  split
  · exact C.andThen (C.note _) fun _ => C.done _
  · exact C.done _

variable [LawfulMonad m] [LawfulMonad n]

theorem each {f : α → m β} {g : α → n β} {items : List α} (h : ∀ a ∈ items, C.Rel (f a) (g a)) :
    C.Rel (items.mapM f) (items.mapM g) := by
  induction items with
  | nil => exact C.done []
  | cons a items ih =>
    obtain ⟨hfirst, hrest⟩ := List.forall_mem_cons.mp h
    rw [List.mapM_cons, List.mapM_cons]
    exact C.andThen hfirst fun b => C.andThen (ih hrest) fun bs => C.done (b :: bs)

/-- What comes behind a value that is handed on is about that value alone. -/
theorem tell_then {x : Logged α} {f : α → m β} {g : α → n β} (h : C.Rel (f x.value) (g x.value)) :
    C.Rel (x.tell >>= f) (x.tell >>= g) := by
  rw [Logged.tell, Logged.tell, bind_assoc, bind_assoc]
  refine C.andThen (C.notes id x.records) fun _ => ?_
  rwa [pure_bind, pure_bind]

theorem biome_of_entry {entry : BiomeEntry}
    (h : ∀ url ∈ entry.symbols.filterMap (·.url? library), C.Rel (load url) (load' url)) :
    C.Rel (Biome.ofEntry load library entry) (Biome.ofEntry load' library entry) := by
  refine C.andThen (C.each fun s hs => C.place_logged fun url hurl => ?_) fun _ => C.done _
  exact h url (List.mem_filterMap.mpr ⟨s, hs, hurl⟩)

theorem layer_of_entry {entry : LayerEntry}
    (h : ∀ b ∈ entry.biomes, ∀ url ∈ b.symbols.filterMap (·.url? library),
      C.Rel (load url) (load' url)) :
    C.Rel (Layer.ofEntry load library entry) (Layer.ofEntry load' library entry) := by
  refine C.andThen (C.each fun b hb => C.biome_of_entry (h b hb)) ?_
  intro biomes
  exact C.andThen (C.notes _ _) fun _ => C.andThen (C.note _) fun _ => C.done _

theorem of_layers {entries : List LayerEntry}
    (h : ∀ l ∈ entries, ∀ b ∈ l.biomes, ∀ url ∈ b.symbols.filterMap (·.url? library),
      C.Rel (load url) (load' url)) :
    C.Rel (LandCover.ofLayers load library entries) (LandCover.ofLayers load' library entries) := by
  have hlayers := C.each fun l hl => C.layer_of_entry (h l hl)
  unfold LandCover.ofLayers
  split
  · exact C.andThen (C.note _) fun _ => C.andThen hlayers fun _ => C.done _
  · exact C.andThen hlayers fun _ => C.done _

/-- Land cover depends on the answers for the urls of its manifest alone. -/
theorem configure (manifest : Manifest) (raised : Diagnostics)
    (h : ∀ url ∈ manifest.urls, C.Rel (load url) (load' url)) :
    C.Rel (LandCover.configure load manifest raised)
      (LandCover.configure load' manifest raised) := by
  have hlayers : C.Rel (LandCover.ofLayers load manifest.openedLibrary manifest.layers)
      (LandCover.ofLayers load' manifest.openedLibrary manifest.layers) := by
    refine C.of_layers fun l hl b hb url hurl => h url ?_
    exact List.mem_flatMap.mpr ⟨l, hl, List.mem_flatMap.mpr ⟨b, hb, hurl⟩⟩
  have hmanifest :
      C.Rel (LandCover.ofManifest load manifest) (LandCover.ofManifest load' manifest) := by
    unfold LandCover.ofManifest
    cases hlibrary : manifest.library with
    | none =>
      rw [Manifest.openedLibrary, hlibrary] at hlayers
      exact C.andThen hlayers fun _ => C.done _
    | some config =>
      rw [Manifest.openedLibrary, hlibrary] at hlayers
      refine C.tell_then ?_
      by_cases hdistinct : config.resourceNames.Nodup
      · rw [Library.of_config_distinct hdistinct]
        exact C.andThen hlayers fun _ => C.done _
      · obtain ⟨name, hrefused, -⟩ := Library.of_config_repeated hdistinct
        rw [hrefused]
        exact C.done _
  refine C.andThen hmanifest ?_
  intro made
  split <;> exact C.done _

end Congruence

end Groundcover
