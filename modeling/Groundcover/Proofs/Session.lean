import Groundcover.Proofs.Disk
import Groundcover.Proofs.Numbers
import Groundcover.Session

/-!
What edits do to a session. An edit fails just when it names something that is not there, and then
nothing changes. A layer that no edit names keeps its shaders, wherever the removal of others moves
it; and as long as edits bring in only numbers in range, every shader of the session has only finite
numbers in it.
-/

namespace Groundcover

namespace Edit

/-- The layer that an edit names. -/
def layer? : Edit → Option Nat
  | removeLayer p | setParams p _ | addBiome p _ | swapBiomes p _ _ | removeBiome p _
  | addBillboard p _ _ | clearBillboards p _ => some p
  | _ => none

/-- The biomes that an edit names within its layer. -/
def biomes : Edit → List Nat
  | swapBiomes _ a b => [a, b]
  | removeBiome _ k | addBillboard _ k _ | clearBillboards _ k => [k]
  | _ => []

/-- What an edit names is not there: its layer, or else the last of its biomes, for if any of them
is missing then so is the last. -/
def Lacks (e : Edit) (s : Session) : Missing → Prop
  | .layer p => e.layer? = some p ∧ s.layers[p]? = none
  | .biome k => ∃ p l, e.layer? = some p ∧ s.layers[p]? = some l ∧
      (k ∈ e.biomes ∧ ∀ j ∈ e.biomes, j ≤ k) ∧ l.biomes[k]? = none

/-- What an edit makes of a layer, which is the one that it names. -/
inductive Turns : Edit → Nat → Layer → Layer → Prop
  | params {p : Nat} {edit : LayerParams → LayerParams} {l : Layer} :
      Turns (setParams p edit) p l { l with params := edit l.params }
  | added {p : Nat} {b : Biome} {l : Layer} :
      Turns (addBiome p b) p l { l with biomes := l.biomes ++ [b] }
  | swapped {p i j : Nat} {b c : Biome} {l : Layer} (first : l.biomes[i]? = some b)
      (second : l.biomes[j]? = some c) :
      Turns (swapBiomes p i j) p l { l with biomes := (l.biomes.set i c).set j b }
  | removed {p i : Nat} {l : Layer} :
      Turns (removeBiome p i) p l { l with biomes := l.biomes.eraseIdx i }
  | planted {p i : Nat} {x : Billboard} {b : Biome} {l : Layer} (found : l.biomes[i]? = some b) :
      Turns (addBillboard p i x) p l
        { l with biomes := l.biomes.set i { b with billboards := b.billboards ++ [x] } }
  | cleared {p i : Nat} {b : Biome} {l : Layer} :
      Turns (clearBillboards p i) p l
        { l with biomes := l.biomes.set i { b with billboards := [] } }

/-- What an edit makes of the layers of a session. -/
inductive Moves (layers : List Layer) : Edit → List Layer → Prop
  | kept {e : Edit} (nowhere : e.layer? = none) (adds : ∀ l, e ≠ addLayer l) : Moves layers e layers
  | added {l : Layer} : Moves layers (addLayer l) (layers ++ [l])
  | removed {p : Nat} : Moves layers (removeLayer p) (layers.eraseIdx p)
  | within {e : Edit} {p : Nat} {l l' : Layer} (found : layers[p]? = some l)
      (turns : e.Turns p l l') : Moves layers e (layers.set p l')

/-- Where a layer is after an edit that was made, if the edit leaves it alone. -/
def follow (e : Edit) (q : Nat) : Option Nat :=
  match e with
  | removeLayer p => if q < p then some q else if q = p then none else some (q - 1)
  | _ => if e.layer? = some q then none else some q

/-- Numbers that an edit brings in are in range. -/
def InRange : Edit → Prop
  | addLayer l => l.Drawable
  | setParams _ edit =>
    ∀ p : LayerParams, p.HasDensity → p.HasFill → (edit p).HasDensity ∧ (edit p).HasFill
  | addBiome _ b => ∀ x ∈ b.billboards, x.HasSize
  | addBillboard _ _ x => x.HasSize
  | _ => True

theorem Turns.layer {e : Edit} {p : Nat} {l l' : Layer} (h : e.Turns p l l') :
    e.layer? = some p := by
  cases h <;> rfl

theorem Turns.stays {e : Edit} {p : Nat} {l l' : Layer} (h : e.Turns p l l') (q : Nat) :
    e.follow q = if p = q then none else some q := by
  cases h <;> simp [follow, layer?]

/-- A layer that an edit leaves alone is found where the edit leads. -/
theorem Moves.get {e : Edit} {layers layers' : List Layer} (h : e.Moves layers layers')
    {p q : Nat} {l : Layer} (hfollow : e.follow p = some q) (hl : layers[p]? = some l) :
    layers'[q]? = some l := by
  cases h with
  | kept hnowhere _ =>
    have hstays : e.follow p = some p := by
      cases e <;> first | rfl | cases hnowhere
    obtain rfl := Option.some.inj (hstays.symm.trans hfollow)
    exact hl
  | added =>
    obtain rfl : p = q := Option.some.inj hfollow
    obtain ⟨hlt, -⟩ := List.getElem?_eq_some_iff.mp hl
    rw [List.getElem?_append_left hlt, hl]
  | @removed k =>
    simp only [follow] at hfollow
    rw [List.getElem?_eraseIdx]
    split at hfollow
    · obtain rfl := Option.some.inj hfollow
      rwa [if_pos (by assumption)]
    · split at hfollow
      · cases hfollow
      · obtain rfl := Option.some.inj hfollow
        rw [if_neg (by omega), Nat.sub_add_cancel (by omega), hl]
  | @within _ k l k' found turns =>
    rw [turns.stays] at hfollow
    split at hfollow
    · cases hfollow
    · rename_i hne
      obtain rfl := Option.some.inj hfollow
      rw [List.getElem?_set_ne hne, hl]

theorem Turns.drawable {e : Edit} {p : Nat} {l l' : Layer} (h : e.Turns p l l')
    (hrange : e.InRange) (hl : l.Drawable) : l'.Drawable := by
  have hset {biomes : List Biome} (hbiomes : ∀ b ∈ biomes, ∀ x ∈ b.billboards, x.HasSize)
      {new : Biome} (hnew : ∀ x ∈ new.billboards, x.HasSize) (i : Nat) :
      ∀ b ∈ biomes.set i new, ∀ x ∈ b.billboards, x.HasSize := by
    intro b hb
    rcases List.mem_or_eq_of_mem_set hb with hb | rfl
    · exact hbiomes b hb
    · exact hnew
  have hget {i : Nat} {b : Biome} (hb : l.biomes[i]? = some b) : ∀ x ∈ b.billboards, x.HasSize :=
    hl.sizes b (List.mem_of_getElem? hb)
  cases h with
  | params =>
    obtain ⟨hdensity, hfill⟩ := hrange l.params hl.density hl.fill
    exact ⟨hdensity, hfill, hl.sizes⟩
  | added =>
    refine ⟨hl.density, hl.fill, fun b hb => ?_⟩
    rcases List.mem_append.mp hb with hb | hb
    · exact hl.sizes b hb
    · obtain rfl := List.mem_singleton.mp hb
      exact hrange
  | swapped first second =>
    exact ⟨hl.density, hl.fill, hset (hset hl.sizes (hget second) _) (hget first) _⟩
  | removed => exact ⟨hl.density, hl.fill, fun b hb => hl.sizes b (List.mem_of_mem_eraseIdx hb)⟩
  | planted found =>
    refine ⟨hl.density, hl.fill, hset hl.sizes (fun x hx => ?_) _⟩
    rcases List.mem_append.mp hx with hx | hx
    · exact hget found x hx
    · obtain rfl := List.mem_singleton.mp hx
      exact hrange
  | cleared => exact ⟨hl.density, hl.fill, hset hl.sizes (List.forall_mem_nil _) _⟩

theorem Moves.drawable {e : Edit} {layers layers' : List Layer} (h : e.Moves layers layers')
    (hrange : e.InRange) (hlayers : ∀ l ∈ layers, l.Drawable) : ∀ l ∈ layers', l.Drawable := by
  cases h with
  | kept => exact hlayers
  | added =>
    intro l hl
    rcases List.mem_append.mp hl with hl | hl
    · exact hlayers l hl
    · obtain rfl := List.mem_singleton.mp hl
      exact hrange
  | removed => exact fun l hl => hlayers l (List.mem_of_mem_eraseIdx hl)
  | within found turns =>
    intro l hl
    rcases List.mem_or_eq_of_mem_set hl with hl | rfl
    · exact hlayers l hl
    · exact turns.drawable hrange (hlayers _ (List.mem_of_getElem? found))

end Edit

namespace Layer

variable {l l' : Layer} {b : Biome} {missing : Missing} {i j : Nat} {edit : Biome → Biome}

theorem biome_ok : l.biome i = .ok b ↔ l.biomes[i]? = some b := by
  unfold biome
  cases l.biomes[i]? <;> simp

theorem biome_error : l.biome i = .error missing ↔ .biome i = missing ∧ l.biomes[i]? = none := by
  unfold biome
  cases l.biomes[i]? <;> simp

theorem remove_biome_ok (h : l.removeBiome i = .ok l') :
    l' = { l with biomes := l.biomes.eraseIdx i } := by
  obtain ⟨b, -, hmade⟩ := except_bind_ok.mp h
  exact (Except.ok.inj hmade).symm

theorem remove_biome_error :
    l.removeBiome i = .error missing ↔ .biome i = missing ∧ l.biomes[i]? = none := by
  rw [removeBiome, except_bind_error, biome_error]
  exact or_iff_left nofun

theorem edit_biome_ok (h : l.editBiome i edit = .ok l') :
    ∃ b, l.biomes[i]? = some b ∧ l' = { l with biomes := l.biomes.set i (edit b) } := by
  obtain ⟨b, hb, hmade⟩ := except_bind_ok.mp h
  exact ⟨b, biome_ok.mp hb, (Except.ok.inj hmade).symm⟩

theorem edit_biome_error :
    l.editBiome i edit = .error missing ↔ .biome i = missing ∧ l.biomes[i]? = none := by
  rw [editBiome, except_bind_error, biome_error]
  exact or_iff_left nofun

theorem swap_biomes_ok (h : l.swapBiomes i j = .ok l') : ∃ b c, l.biomes[i]? = some b ∧
    l.biomes[j]? = some c ∧ l' = { l with biomes := (l.biomes.set i c).set j b } := by
  unfold swapBiomes at h
  split at h
  · rename_i b c hb hc
    exact ⟨b, c, hb, hc, (Except.ok.inj h).symm⟩
  · cases h

/-- If one of two positions has no biome, then the larger one has none. -/
theorem swap_biomes_error : l.swapBiomes i j = .error missing ↔
    .biome (max i j) = missing ∧ l.biomes[max i j]? = none := by
  have hnone : l.biomes[max i j]? = none ↔ l.biomes[i]? = none ∨ l.biomes[j]? = none := by
    simp only [List.getElem?_eq_none_iff]
    omega
  rw [hnone, swapBiomes]
  cases l.biomes[i]? <;> cases l.biomes[j]? <;> simp

end Layer

namespace Session

variable {s t : Session} {e : Edit} {l : Layer} {missing : Missing} {p q : Nat}
  {edit : Layer → Except Missing Layer}

theorem layer_ok : s.layer p = .ok l ↔ s.layers[p]? = some l := by
  unfold layer
  cases s.layers[p]? <;> simp

theorem layer_error : s.layer p = .error missing ↔ .layer p = missing ∧ s.layers[p]? = none := by
  unfold layer
  cases s.layers[p]? <;> simp

theorem remove_layer_ok (h : s.removeLayer p = .ok t) :
    t = { s with layers := s.layers.eraseIdx p } := by
  obtain ⟨l, -, hmade⟩ := except_bind_ok.mp h
  exact (Except.ok.inj hmade).symm

theorem remove_layer_error :
    s.removeLayer p = .error missing ↔ .layer p = missing ∧ s.layers[p]? = none := by
  rw [removeLayer, except_bind_error, layer_error]
  exact or_iff_left nofun

theorem edit_layer_ok (h : s.editLayer p edit = .ok t) : ∃ l l', s.layers[p]? = some l ∧
    edit l = .ok l' ∧ t = { s with layers := s.layers.set p l' } := by
  obtain ⟨l, hl, h⟩ := except_bind_ok.mp h
  obtain ⟨l', hl', hmade⟩ := except_bind_ok.mp h
  exact ⟨l, l', layer_ok.mp hl, hl', (Except.ok.inj hmade).symm⟩

theorem edit_layer_error : s.editLayer p edit = .error missing ↔
    (.layer p = missing ∧ s.layers[p]? = none) ∨
      ∃ l, s.layers[p]? = some l ∧ edit l = .error missing := by
  have hedit (l : Layer) : ((edit l >>= fun l' => return { s with layers := s.layers.set p l' }) :
      Except Missing Session) = .error missing ↔ edit l = .error missing := by
    rw [except_bind_error]
    exact or_iff_left nofun
  rw [editLayer, except_bind_error, layer_error]
  simp only [hedit, layer_ok]

section Failing

theorem lacks_iff (hlayer : e.layer? = some p) : e.Lacks s missing ↔
    (.layer p = missing ∧ s.layers[p]? = none) ∨
      ∃ l, s.layers[p]? = some l ∧ ∃ k, .biome k = missing ∧
        (k ∈ e.biomes ∧ ∀ j ∈ e.biomes, j ≤ k) ∧ l.biomes[k]? = none := by
  cases missing with
  | layer r =>
    constructor
    · rintro ⟨hr, hnone⟩
      obtain rfl := Option.some.inj (hlayer.symm.trans hr)
      exact .inl ⟨rfl, hnone⟩
    · rintro (⟨hr, hnone⟩ | ⟨l, -, k, hk, -⟩)
      · cases hr
        exact ⟨hlayer, hnone⟩
      · cases hk
  | biome k =>
    constructor
    · rintro ⟨r, l, hr, hl, hlast, hnone⟩
      obtain rfl := Option.some.inj (hlayer.symm.trans hr)
      exact .inr ⟨l, hl, k, rfl, hlast, hnone⟩
    · rintro (⟨hr, -⟩ | ⟨l, hl, j, hj, hlast, hnone⟩)
      · cases hr
      · cases hj
        exact ⟨p, l, hlayer, hl, hlast, hnone⟩

/-- An edit that names biomes fails if its layer is not there or the last of them is not. -/
theorem edit_biomes_error {k : Nat} (hlayer : e.layer? = some p)
    (hlast : k ∈ e.biomes ∧ ∀ j ∈ e.biomes, j ≤ k)
    (h : ∀ l, edit l = .error missing ↔ .biome k = missing ∧ l.biomes[k]? = none) :
    s.editLayer p edit = .error missing ↔ e.Lacks s missing := by
  have hbiome (l : Layer) : (.biome k = missing ∧ l.biomes[k]? = none) ↔
      ∃ j, .biome j = missing ∧ (j ∈ e.biomes ∧ ∀ i ∈ e.biomes, i ≤ j) ∧ l.biomes[j]? = none := by
    constructor
    · rintro ⟨hk, hnone⟩
      exact ⟨k, hk, hlast, hnone⟩
    · rintro ⟨j, hj, hlast', hnone⟩
      obtain rfl : k = j := Nat.le_antisymm (hlast'.2 k hlast.1) (hlast.2 j hlast'.1)
      exact ⟨hj, hnone⟩
  simp only [edit_layer_error, lacks_iff hlayer, h, hbiome]

/-- An edit that names no biome fails if its layer is not there. -/
theorem edit_layer_error_of_no_biome (hlayer : e.layer? = some p) (hbiomes : e.biomes = [])
    (h : ∀ l, edit l ≠ .error missing) :
    s.editLayer p edit = .error missing ↔ e.Lacks s missing := by
  simp [edit_layer_error, lacks_iff hlayer, hbiomes, h]

/-- An edit fails just when it names something that is not there, which it reports. -/
theorem apply_error : s.apply e = .error missing ↔ e.Lacks s missing := by
  cases e with
  | removeLayer p =>
    have hlayer : (Edit.removeLayer p).layer? = some p := rfl
    simp [apply, remove_layer_error, lacks_iff hlayer, Edit.biomes]
  | setParams p f => exact edit_layer_error_of_no_biome rfl rfl nofun
  | addBiome p b => exact edit_layer_error_of_no_biome rfl rfl nofun
  | swapBiomes p i j =>
    refine edit_biomes_error rfl ?_ fun l => l.swap_biomes_error
    simp only [Edit.biomes, List.mem_cons, List.not_mem_nil, or_false]
    exact ⟨by omega, fun k hk => by omega⟩
  | removeBiome p k =>
    exact edit_biomes_error rfl (by simp [Edit.biomes]) fun _ => Layer.remove_biome_error
  | addBillboard p k x =>
    exact edit_biomes_error rfl (by simp [Edit.biomes]) fun _ => Layer.edit_biome_error
  | clearBillboards p k =>
    exact edit_biomes_error rfl (by simp [Edit.biomes]) fun _ => Layer.edit_biome_error
  | _ => cases missing <;> simp [apply, Edit.Lacks, Edit.layer?]

/-- An edit that names something that is not there changes nothing. -/
theorem edited_of_lacks (h : e.Lacks s missing) : s.edited e = s := by
  rw [edited, apply_error.mpr h]

end Failing

section Making

/-- All that an edit can do to the layers, if it is made. -/
theorem apply_ok (h : s.apply e = .ok t) : e.Moves s.layers t.layers := by
  have hwithin {p : Nat} {edit : Layer → Except Missing Layer} (hedit : s.editLayer p edit = .ok t)
      (hturns : ∀ l l', edit l = .ok l' → e.Turns p l l') : e.Moves s.layers t.layers := by
    obtain ⟨l, l', hl, hl', rfl⟩ := edit_layer_ok hedit
    exact .within hl (hturns l l' hl')
  cases e with
  | addLayer l =>
    obtain rfl := Except.ok.inj h
    exact .added
  | removeLayer p =>
    obtain rfl := remove_layer_ok h
    exact .removed
  | setParams p f =>
    refine hwithin h fun l l' hl => ?_
    obtain rfl := Except.ok.inj hl
    exact .params
  | addBiome p b =>
    refine hwithin h fun l l' hl => ?_
    obtain rfl := Except.ok.inj hl
    exact .added
  | swapBiomes p i j =>
    refine hwithin h fun l l' hl => ?_
    obtain ⟨b, c, hb, hc, rfl⟩ := Layer.swap_biomes_ok hl
    exact .swapped hb hc
  | removeBiome p k =>
    refine hwithin h fun l l' hl => ?_
    obtain rfl := Layer.remove_biome_ok hl
    exact .removed
  | addBillboard p k x =>
    refine hwithin h fun l l' hl => ?_
    obtain ⟨b, hb, rfl⟩ := Layer.edit_biome_ok hl
    exact .planted hb
  | clearBillboards p k =>
    refine hwithin h fun l l' hl => ?_
    obtain ⟨b, -, rfl⟩ := Layer.edit_biome_ok hl
    exact .cleared
  | _ =>
    obtain rfl := Except.ok.inj h
    exact .kept rfl nofun

end Making

section Following

/-- Where a layer is after edits that leave it alone. -/
def follow (s : Session) (p : Nat) : List Edit → Option Nat
  | [] => some p
  | e :: rest =>
    match s.apply e with
    | .ok t => (e.follow p).bind fun q => t.follow q rest
    | .error _ => s.follow p rest

theorem after_get {edits : List Edit} (hfollow : s.follow p edits = some q)
    (hl : s.layers[p]? = some l) : (s.after edits).layers[q]? = some l := by
  induction edits generalizing s p with
  | nil =>
    obtain rfl := Option.some.inj hfollow
    exact hl
  | cons e rest ih =>
    rw [follow] at hfollow
    rw [after, List.foldl_cons, edited]
    cases happly : s.apply e with
    | error =>
      rw [happly] at hfollow
      exact ih hfollow hl
    | ok t =>
      rw [happly] at hfollow
      obtain ⟨r, hr, hfollow⟩ := Option.bind_eq_some_iff.mp hfollow
      exact ih hfollow ((apply_ok happly).get hr hl)

theorem generate_get (s : Session) (p : Nat) :
    s.generate.value[p]? = s.layers[p]?.map fun l => (l.shaders s.coverage s.options).value := by
  simp [generate, LandCover.generate, Logged.forList]

/-- A layer that edits leave alone has the shaders that it had, if it is to be classified and
written as before. -/
theorem untouched_layer_keeps_shaders {edits : List Edit} (hfollow : s.follow p edits = some q)
    (hp : p < s.layers.length) (hcoverage : (s.after edits).coverage = s.coverage)
    (hoptions : (s.after edits).options = s.options) :
    (s.after edits).generate.value[q]? = s.generate.value[p]? := by
  have hl := List.getElem?_eq_getElem hp
  rw [generate_get, generate_get, after_get hfollow hl, hl, hcoverage, hoptions]

example :
    let s : Session := { layers := [{ name := "a" }, { name := "b" }, { name := "c" }] }
    s.follow 2 [.removeBiome 2 0, .addBiome 1 {}, .removeLayer 0, .removeLayer 3] = some 1 := by
  decide

end Following

section Ranges

/-- Sessions whose layers can all be drawn stay so under edits with numbers in range. -/
theorem after_drawable {edits : List Edit} (hrange : ∀ e ∈ edits, e.InRange)
    (hdrawable : ∀ l ∈ s.layers, l.Drawable) : ∀ l ∈ (s.after edits).layers, l.Drawable := by
  induction edits generalizing s with
  | nil => exact hdrawable
  | cons e rest ih =>
    obtain ⟨hfirst, hrest⟩ := List.forall_mem_cons.mp hrange
    rw [after, List.foldl_cons, edited]
    refine ih hrest ?_
    cases happly : s.apply e with
    | error => exact hdrawable
    | ok t => exact (apply_ok happly).drawable hfirst hdrawable

/-- Whatever is edited, and whichever edits fail, each shader of a session that began empty is read
to its end and shows finite decimals only, if the numbers that were brought in are in range. -/
theorem edited_shaders_in_decimals {edits : List Edit} (hrange : ∀ e ∈ edits, e.InRange) :
    let s := Session.after {} edits
    ∀ shaders ∈ s.generate.value, ∀ shader ∈ shaders.all,
      Source.InDecimals s.options (s.coverage.bind Coverage.binding) shader.source := by
  intro s shaders hshaders
  obtain ⟨l, hl, rfl⟩ := List.mem_map.mp hshaders
  have hdrawable : ∀ l ∈ s.layers, l.Drawable := after_drawable hrange nofun
  exact (hdrawable l hl).shaders_in_decimals s.options s.coverage

end Ranges

end Session

end Groundcover
