import Groundcover.Generation
import Groundcover.Proofs.Configuration
import Groundcover.Proofs.Storage

/-!
Loaders that give an image for a url or do not, whatever was loaded before. That of images next to a
manifest is one of them: loading an image leaves the disk as it is, and the cache only ever knows
images that are on the disk.
-/

namespace Groundcover

open Execution

/-- The calls of a loader that answers with images exactly where there are some. -/
def Answered (readable : String → Bool) (calls : List Call) : Prop :=
  ∀ call ∈ calls, call.2.isOk = readable call.1

namespace Answered

variable {readable : String → Bool}

theorem of_flat_map {α : Type} {items : List α} {calls : α → List Call}
    (h : Answered readable (items.flatMap calls)) : ∀ a ∈ items, Answered readable (calls a) := by
  intro a ha call hcall
  exact h call (List.mem_flatMap.mpr ⟨a, ha, hcall⟩)

theorem of_fates {fates : List Fate} (h : Answered readable (fates.filterMap Fate.call?)) :
    ∀ fate ∈ fates, Answered readable fate.call?.toList := by
  rw [List.filterMap_eq_flatMap_toList] at h
  exact h.of_flat_map

end Answered

section Serving

variable {m : Type → Type} [Monad m] [Journal m] {σ : Type} [Execution m σ]

/-- In states with the property, which stays, the url alone decides whether there is an image. -/
structure Serves (load : ImageLoader m) (readable : String → Bool) (P : σ → Prop) : Prop where
  answers : ∀ s, P s → ∀ url, (exec (load url) s).1.isOk = readable url
  keeps : ∀ s, P s → ∀ url, P (exec (load url) s).2

namespace Serves

variable [LawfulMonad m] {load : ImageLoader m} {readable : String → Bool} {P : σ → Prop}
  (h : Serves load readable P) {start finish : σ} (hstart : P start)
include h hstart

theorem asked {calls : List Call} (hasked : Asked load start calls finish) :
    P finish ∧ Answered readable calls := by
  -- The state moves on with each call, and the property with it.
  induction calls generalizing start with
  | nil =>
    simp only [Asked, List.map_nil, List.mapM_nil, exec_pure, Prod.mk.injEq, true_and] at hasked
    exact ⟨hasked ▸ hstart, List.forall_mem_nil _⟩
  | cons call calls ih =>
    obtain ⟨middle, hload, hrest⟩ := hasked.of_cons
    have hanswer := h.answers start hstart call.1
    have hmiddle := h.keeps start hstart call.1
    rw [hload] at hanswer hmiddle
    obtain ⟨hfinish, hothers⟩ := ih hmiddle hrest
    exact ⟨hfinish, List.forall_mem_cons.mpr ⟨hanswer, hothers⟩⟩

theorem after (urls : List String) : P (exec (urls.mapM load) start).2 := by
  induction urls generalizing start with
  | nil => simpa using hstart
  | cons url urls ih =>
    simp only [List.mapM_cons, exec_bind, exec_pure]
    exact ih (h.keeps start hstart url)

end Serves

end Serving

/-- There is an image at a path that can be read. -/
def Disk.hasImage (d : Disk) (p : Path) : Bool :=
  (exec (ImageCache.sizeOfFile p : StateT Disk Logged _) d).1.isOk

/-- Where the image of a url is that a manifest mentions. -/
def Path.imageBeside (manifest : Path) (url : String) : Path :=
  ((manifest.parent?).getD (.ofText ".")).join (.ofText url)

namespace ImageCache

variable {c : ImageCache} {d : Disk}

/-- Reading the size of an image leaves the cache and the disk as they are. -/
theorem exec_size_of_file (p : Path) (c : ImageCache) (d : Disk) :
    exec (sizeOfFile p : StateT ImageCache (StateT Disk Logged) _) (c, d) =
      ((exec (sizeOfFile p : StateT Disk Logged _) d).1, c, d) := by
  have hopen : exec (Storage.openNode p : StateT ImageCache (StateT Disk Logged) _) (c, d) =
      (d.lookup p, c, d) := exec_lift _ c d
  simp only [sizeOfFile, exec_bind, hopen, Storage.exec_open]
  split
  · simp
  · split
    · simp
    · split
      · simp
      · split <;> simp

/-- A url that is known is answered from the cache; for any other the file on the disk decides. -/
theorem exec_load (base : Path) (url : String) (c : ImageCache) (d : Disk) :
    exec (load base url : StateT ImageCache (StateT Disk Logged) _) (c, d) =
      match c.get? url,
          (exec (sizeOfFile (base.join (.ofText url)) : StateT Disk Logged _) d).1 with
      | some image, _ => (.ok image, c, d)
      | none, .error e => (.error e, c, d)
      | none, .ok (width, height) =>
        (.ok (c.insert url width height).1, (c.insert url width height).2, d) := by
  have hread := exec_size_of_file (base.join (.ofText url)) c d
  cases hknown : c.get? url with
  | some image => simp [load, hknown]
  | none =>
    rcases hsize : (exec (sizeOfFile (base.join (.ofText url)) : StateT Disk Logged _) d).1
      with e | ⟨width, height⟩
    · rw [hsize] at hread
      simp [load, hknown, hread]
    · rw [hsize] at hread
      simp [load, hknown, hread]

/-- Every image that is known can be read from the disk. -/
def Fits (d : Disk) (manifest : Path) (c : ImageCache) : Prop :=
  ∀ url image, c.get? url = some image → d.hasImage (manifest.imageBeside url) = true

theorem fits_empty (d : Disk) (manifest : Path) : Fits d manifest {} := nofun

theorem Fits.insert {manifest : Path} {url : String} (h : c.Fits d manifest) (width height : Nat)
    (hurl : d.hasImage (manifest.imageBeside url) = true) :
    (c.insert url width height).2.Fits d manifest := by
  intro other image hother
  simp only [get?, ImageCache.insert, List.lookup_append] at hother
  cases hknown : c.get? other with
  | some image => exact h other image hknown
  | none =>
    rw [get?] at hknown
    have hsame : other = url := by
      by_contra hne
      simp [hknown, List.lookup_cons, beq_false_of_ne hne] at hother
    exact hsame ▸ hurl

end ImageCache

section Beside

variable {c : ImageCache} {d : Disk} {manifest : Path}

/-- A url is answered with an image when there is one on the disk, whatever is known already. -/
theorem images_beside_spec (h : c.Fits d manifest) (url : String) :
    ∃ answer c', exec (GeneratorConfig.imagesBeside manifest url :
        StateT ImageCache (StateT Disk Logged) _) (c, d) = (answer, c', d) ∧
      answer.isOk = d.hasImage (manifest.imageBeside url) ∧ c'.Fits d manifest := by
  have hload := ImageCache.exec_load ((manifest.parent?).getD (.ofText ".")) url c d
  cases hknown : c.get? url with
  | some image =>
    refine ⟨.ok image, c, ?_, (h url image hknown).symm, h⟩
    simp [GeneratorConfig.imagesBeside, hload, hknown]
  | none =>
    have hhas : d.hasImage (manifest.imageBeside url) =
        (exec (ImageCache.sizeOfFile (manifest.imageBeside url) : StateT Disk Logged _) d).1.isOk :=
      rfl
    rw [← Path.imageBeside, hknown] at hload
    rcases hsize :
        (exec (ImageCache.sizeOfFile (manifest.imageBeside url) : StateT Disk Logged _) d).1
      with e | ⟨width, height⟩
    · rw [hsize] at hload hhas
      exact ⟨.error e.text, c, by simp [GeneratorConfig.imagesBeside, hload], hhas.symm, h⟩
    · rw [hsize] at hload hhas
      exact ⟨.ok (c.insert url width height).1, (c.insert url width height).2,
        by simp [GeneratorConfig.imagesBeside, hload], hhas.symm, h.insert width height hhas⟩

/-- As long as the cache fits the disk, it makes no difference which images it knows. -/
theorem images_beside_serves (file : Path) (d : Disk) :
    Serves (m := StateT ImageCache (StateT Disk Logged)) (GeneratorConfig.imagesBeside file)
      (fun url => d.hasImage (file.imageBeside url)) (fun s => s.2 = d ∧ s.1.Fits d file) := by
  constructor
  · rintro ⟨c, _⟩ ⟨rfl, hfits⟩ url
    obtain ⟨answer, c', hexec, hanswer, -⟩ := images_beside_spec hfits url
    rw [hexec]
    exact hanswer
  · rintro ⟨c, _⟩ ⟨rfl, hfits⟩ url
    obtain ⟨answer, c', hexec, -, hfits'⟩ := images_beside_spec hfits url
    rw [hexec]
    exact ⟨rfl, hfits'⟩

end Beside

end Groundcover
