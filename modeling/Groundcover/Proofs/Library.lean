import Groundcover.Library

/-!
Which configurations make a library: those whose resources have different names. Any other is
refused with the first name that stood before.
-/

namespace Groundcover

/-- The name that is found is the first to occur in front of itself or among those seen before. -/
theorem first_repeat_spec (seen names : List String) :
    match firstRepeat? seen names with
    | none => names.Nodup ∧ ∀ name ∈ names, name ∉ seen
    | some name => ∃ front back, names = front ++ name :: back ∧ front.Nodup ∧
        (∀ other ∈ front, other ∉ seen) ∧ (name ∈ seen ∨ name ∈ front) := by
  induction names generalizing seen with
  | nil => simp [firstRepeat?]
  | cons name rest ih =>
    by_cases hseen : name ∈ seen
    · simp only [firstRepeat?, hseen, if_true]
      exact ⟨[], rest, rfl, List.nodup_nil, nofun, .inl trivial⟩
    · have hrest := ih (name :: seen)
      simp only [firstRepeat?, hseen, if_false]
      cases hfound : firstRepeat? (name :: seen) rest with
      | none =>
        simp only [hfound, List.mem_cons, not_or] at hrest
        refine ⟨List.nodup_cons.mpr ⟨fun hm => (hrest.2 name hm).1 rfl, hrest.1⟩, ?_⟩
        exact List.forall_mem_cons.mpr ⟨hseen, fun other hm => (hrest.2 other hm).2⟩
      | some found =>
        simp only [hfound, List.mem_cons, not_or] at hrest
        obtain ⟨front, back, hsplit, hdistinct, hfresh, hbefore⟩ := hrest
        refine ⟨name :: front, back, by rw [hsplit, List.cons_append], ?_, ?_, ?_⟩
        · exact List.nodup_cons.mpr ⟨fun hm => (hfresh name hm).1 rfl, hdistinct⟩
        · exact List.forall_mem_cons.mpr ⟨hseen, fun other hm => (hfresh other hm).2⟩
        · rcases hbefore with (he | hm) | hm
          · exact .inr (he ▸ List.mem_cons_self)
          · exact .inl hm
          · exact .inr (List.mem_cons_of_mem _ hm)

def LibraryConfig.resourceNames (c : LibraryConfig) : List String := c.resources.map Resource.name

/-- A name with an equal one before it, and the first such. -/
def FirstRepeat (names : List String) (name : String) : Prop :=
  ∃ front back, names = front ++ name :: back ∧ front.Nodup ∧ name ∈ front

namespace Library

theorem of_config_distinct {c : LibraryConfig} (h : c.resourceNames.Nodup) :
    (ofConfig c).value = .ok ⟨c.name, c.resources⟩ := by
  have hspec := first_repeat_spec [] c.resourceNames
  cases hfound : firstRepeat? [] c.resourceNames with
  | none =>
    rw [LibraryConfig.resourceNames] at hfound
    simp only [ofConfig, hfound]
  | some name =>
    simp only [hfound, List.not_mem_nil, false_or] at hspec
    obtain ⟨front, back, hsplit, -, -, hmem⟩ := hspec
    rw [hsplit] at h
    exact absurd rfl ((List.nodup_append.mp h).2.2 name hmem name List.mem_cons_self)

theorem of_config_repeated {c : LibraryConfig} (h : ¬c.resourceNames.Nodup) :
    ∃ name, (ofConfig c).value = .error ⟨c.name, name⟩ ∧ FirstRepeat c.resourceNames name := by
  have hspec := first_repeat_spec [] c.resourceNames
  cases hfound : firstRepeat? [] c.resourceNames with
  | none =>
    simp only [hfound] at hspec
    exact absurd hspec.1 h
  | some name =>
    simp only [hfound, List.not_mem_nil, false_or] at hspec
    obtain ⟨front, back, hsplit, hdistinct, -, hmem⟩ := hspec
    refine ⟨name, ?_, front, back, hsplit, hdistinct, hmem⟩
    rw [LibraryConfig.resourceNames] at hfound
    simp only [ofConfig, hfound]

end Library

end Groundcover
