import Groundcover.Proofs.Images

/-!
Histories of a cache of images, in which files come and go between loads. What the cache knows are
the first images that were loaded, one for each url, and the serial numbers of all images so far are
below the number of images that it knows.
-/

namespace Groundcover

open Execution

/-- A url that was loaded, and the answer. -/
abbrev Loading : Type := String × Except ImageError Image

/-- What may happen to a cache and to the files that it reads. -/
inductive CacheStep
  | load (url : String)
  | write (path : Path) (content : List UInt8)
  | remove (path : Path)

/-- What was loaded so far, with the cache and the disk that this has led to. -/
structure CacheHistory where
  loadings : List Loading := []
  cache : ImageCache := {}
  disk : Disk := {}

namespace ImageCache

theorem get?_insert (c : ImageCache) (url other : String) (width height : Nat) :
    (c.insert url width height).2.get? other =
      (c.get? other).or (if other = url then some (c.insert url width height).1 else none) := by
  simp only [get?, insert, List.lookup_append, List.lookup_cons, List.lookup_nil]
  by_cases h : other = url
  · simp [h]
  · simp [h, beq_false_of_ne h]

end ImageCache

namespace CacheHistory

variable (base : Path)

/-- One step more. A file that cannot be written or removed stays as it is. -/
def next (h : CacheHistory) : CacheStep → CacheHistory
  | .load url =>
    let (answer, cache, disk) :=
      exec (ImageCache.load base url : StateT ImageCache (StateT Disk Logged) _) (h.cache, h.disk)
    ⟨h.loadings ++ [(url, answer)], cache, disk⟩
  | .write path content => { h with disk := (h.disk.write path content).toOption.getD h.disk }
  | .remove path => { h with disk := (h.disk.remove path).toOption.getD h.disk }

/-- What some steps lead to from an empty cache. -/
def after (start : Disk) (steps : List CacheStep) : CacheHistory :=
  steps.foldl (next base) { disk := start }

/-- The image of the first time that a url could be loaded. -/
def firstImage? (h : CacheHistory) (url : String) : Option Image :=
  h.loadings.findSome? fun loading => if loading.1 = url then loading.2.toOption else none

/-- The cache knows the first image of each url, and numbered all images that there were. -/
structure IsConsistent (h : CacheHistory) : Prop where
  known : ∀ url, h.cache.get? url = h.firstImage? url
  numbered : ∀ loading ∈ h.loadings, ∀ image, loading.2 = .ok image →
    image.serial < h.cache.known.length

variable {base} {h : CacheHistory}

/-- An answer is in keeping with a history when the cache has come to know what is new in it. -/
theorem IsConsistent.answered (hc : h.IsConsistent) {url : String}
    {answer : Except ImageError Image} {cache : ImageCache} {disk : Disk}
    (hknown : ∀ other, cache.get? other =
      (h.cache.get? other).or (if url = other then answer.toOption else none))
    (hlength : h.cache.known.length ≤ cache.known.length)
    (hanswer : ∀ image, answer = .ok image → image.serial < cache.known.length) :
    IsConsistent ⟨h.loadings ++ [(url, answer)], cache, disk⟩ := by
  refine ⟨fun other => ?_, fun loading hloading image hok => ?_⟩
  · rw [hknown, hc.known]
    simp [firstImage?, List.findSome?_append]
  · rcases List.mem_append.mp hloading with hmem | hmem
    · exact Nat.lt_of_lt_of_le (hc.numbered loading hmem image hok) hlength
    · obtain rfl := List.mem_singleton.mp hmem
      exact hanswer image hok

theorem IsConsistent.serial_of_known (hc : h.IsConsistent) {url : String} {image : Image}
    (hknown : h.cache.get? url = some image) : image.serial < h.cache.known.length := by
  rw [hc.known] at hknown
  obtain ⟨loading, hmem, hfirst⟩ := List.exists_of_findSome?_eq_some hknown
  refine hc.numbered loading hmem image ?_
  split at hfirst
  · cases hanswer : loading.2 <;> simp_all [Except.toOption]
  · cases hfirst

/-- A load adds the first image of a url that was not known, and nothing else to what is known. -/
theorem IsConsistent.load (hc : h.IsConsistent) (url : String) :
    (h.next base (.load url)).IsConsistent := by
  have hload := ImageCache.exec_load base url h.cache h.disk
  cases hknown : h.cache.get? url with
  | some image =>
    simp only [next, hload, hknown]
    refine hc.answered (fun other => ?_) (Nat.le_refl _) ?_
    · by_cases hurl : url = other
      · simp [← hurl, hknown]
      · simp [hurl]
    · rintro _ ⟨⟩
      exact hc.serial_of_known hknown
  | none =>
    cases hsize : (exec (ImageCache.sizeOfFile (base.join (.ofText url)) :
        StateT Disk Logged _) h.disk).1 with
    | error e =>
      simp only [next, hload, hknown, hsize]
      exact hc.answered (fun other => by simp [Except.toOption]) (Nat.le_refl _) nofun
    | ok size =>
      have hmore : (h.cache.insert url size.1 size.2).2.known.length =
          h.cache.known.length + 1 := by
        simp [ImageCache.insert]
      simp only [next, hload, hknown, hsize]
      refine hc.answered (fun other => ?_) (by omega) ?_
      · rw [ImageCache.get?_insert]
        simp only [eq_comm, Except.toOption]
      · rintro _ ⟨⟩
        exact hmore ▸ Nat.lt_succ_self _

theorem IsConsistent.next (hc : h.IsConsistent) (step : CacheStep) :
    (h.next base step).IsConsistent := by
  cases step with
  | load url => exact hc.load url
  | write path content => exact ⟨hc.known, hc.numbered⟩
  | remove path => exact ⟨hc.known, hc.numbered⟩

theorem is_consistent_after (base : Path) (start : Disk) (steps : List CacheStep) :
    (after base start steps).IsConsistent := by
  have hstart : IsConsistent { disk := start } := ⟨fun _ => rfl, nofun⟩
  rw [after]
  generalize CacheHistory.mk [] {} start = h at hstart
  induction steps generalizing h with
  | nil => exact hstart
  | cons step steps ih => exact ih _ (hstart.next step)

end CacheHistory

open CacheHistory in
/-- Whatever was loaded, written and removed before: a url that could be loaded once has its first
image for good, and storage is not even asked. Any other gets what its file holds now, as an image
that differs from all images so far, or the error, which leaves no trace in the cache. What other
urls have in the cache stays. -/
theorem loads_follow_history (base : Path) (start : Disk) (steps : List CacheStep) (url : String) :
    let h := after base start steps
    let loaded :=
      exec (ImageCache.load base url : StateT ImageCache (StateT Disk Logged) _) (h.cache, h.disk)
    (match h.firstImage? url with
      | some image => loaded = (.ok image, h.cache, h.disk) ∧
        ∀ (m : Type → Type) [Monad m] [LawfulMonad m] [Storage m] [Journal m],
          (ImageCache.load base url : StateT ImageCache m _).run h.cache =
            pure (.ok image, h.cache)
      | none =>
        match (exec (ImageCache.sizeOfFile (base.join (.ofText url)) :
          StateT Disk Logged _) h.disk).1 with
        | .error e => loaded = (.error e, h.cache, h.disk)
        | .ok (width, height) => ∃ image cache, loaded = (.ok image, cache, h.disk) ∧
          image.width = width ∧ image.height = height ∧
          (∀ loading ∈ h.loadings, ∀ other, loading.2 = .ok other → other.serial ≠ image.serial) ∧
          cache.get? url = some image) ∧
    ∀ other, other ≠ url → loaded.2.1.get? other = h.cache.get? other := by
  intro h loaded
  have hconsistent : h.IsConsistent := is_consistent_after base start steps
  have hload : loaded = _ := ImageCache.exec_load base url h.cache h.disk
  rw [← hconsistent.known]
  cases hknown : h.cache.get? url with
  | some image =>
    simp only [hknown] at hload
    refine ⟨⟨hload, fun m => ?_⟩, fun other _ => by rw [hload]⟩
    intros
    simp [ImageCache.load, hknown]
  | none =>
    cases hsize : (exec (ImageCache.sizeOfFile (base.join (.ofText url)) :
        StateT Disk Logged _) h.disk).1 with
    | error e =>
      simp only [hknown, hsize] at hload
      exact ⟨hload, fun other _ => by rw [hload]⟩
    | ok size =>
      simp only [hknown, hsize] at hload
      refine ⟨⟨_, _, hload, rfl, rfl, fun loading hloading other hok => ?_, ?_⟩,
        fun other hother => ?_⟩
      · exact Nat.ne_of_lt (hconsistent.numbered loading hloading other hok)
      · simp [ImageCache.get?_insert, hknown]
      · rw [hload, ImageCache.get?_insert, if_neg hother, Option.or_none]

end Groundcover
