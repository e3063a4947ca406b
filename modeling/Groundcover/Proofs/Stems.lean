import Groundcover.Proofs.Output
import Mathlib.Data.Finset.Card
import Mathlib.Order.Bounds.Basic

/-!
The search for a stem that is free. It tries one name after the other without a limit of its own,
and ends because the names that it tries differ and only finitely many are taken.
-/

namespace Groundcover.Output

/-- A candidate that is taken gives way to the stem with the next number, and the first one that is
free is found after some attempts to number the stem. -/
inductive Search (taken : List String) (stem : String) : String → Nat → Nat → String → Prop
  | found {candidate : String} {n : Nat} (free : candidate ∉ taken) :
      Search taken stem candidate n 0 candidate
  | next {candidate name : String} {n attempts : Nat} (occupied : candidate ∈ taken)
      (others : Search taken stem (numbered stem n) (n + 1) attempts name) :
      Search taken stem candidate n (attempts + 1) name

variable {taken : List String} {stem candidate name other : String} {n k attempts : Nat}

/-- A search has one end. -/
theorem Search.unique (h : Search taken stem candidate n attempts name)
    (h' : Search taken stem candidate n k other) : k = attempts ∧ other = name := by
  induction h generalizing k with
  | found free =>
    cases h' with
    | found => exact ⟨rfl, rfl⟩
    | next occupied => exact absurd occupied free
  | next occupied others ih =>
    cases h' with
    | found free => exact absurd occupied free
    | next _ others' =>
      obtain ⟨rfl, rfl⟩ := ih others'
      exact ⟨rfl, rfl⟩

/-- From one numbered stem the search goes on to the first one that is free. -/
theorem search_from_numbered (hle : n ≤ k) (htaken : ∀ i, n ≤ i → i < k → numbered stem i ∈ taken)
    (hfree : numbered stem k ∉ taken) :
    Search taken stem (numbered stem n) (n + 1) (k - n) (numbered stem k) := by
  induction h : k - n generalizing n with
  | zero =>
    obtain rfl : n = k := by omega
    exact .found hfree
  | succ rest ih =>
    exact .next (htaken n (Nat.le_refl n) (by omega))
      (ih (by omega) (fun i hi hk => htaken i (by omega) hk) (by omega))

theorem stem_ne_numbered (stem : String) (n : Nat) : stem ≠ numbered stem n := by
  intro h
  have hlength := congrArg (fun name => name.toList.length) h
  simp [numbered] at hlength

/-- The numbered stems that are passed over are among the names taken, and the stem is one more. -/
theorem passed_le_card (hstem : stem ∈ taken) (hn : 2 ≤ n)
    (htaken : ∀ i, 2 ≤ i → i < n → numbered stem i ∈ taken) : n - 2 + 1 ≤ taken.toFinset.card := by
  have hmem : stem ∈ taken.dedup := List.mem_dedup.mpr hstem
  have hpassed : n ≤ 2 + (taken.dedup.erase stem).length := by
    have herased (i : Nat) (hi : 2 ≤ i) (hlt : i < n) : numbered stem i ∈ taken.dedup.erase stem :=
      (List.mem_erase_of_ne (stem_ne_numbered stem i).symm).mpr
        (List.mem_dedup.mpr (htaken i hi hlt))
    exact numbered_taken_lt herased
  rw [List.length_erase_of_mem hmem] at hpassed
  have hpos : 0 < taken.dedup.length := List.length_pos_of_mem hmem
  rw [List.card_toFinset]
  omega

/-- The search ends with the free stem, after no more attempts than there are names taken. -/
theorem search_ends (taken : List String) (stem : String) :
    ∃ attempts ≤ taken.toFinset.card, Search taken stem stem 2 attempts (freeStem taken stem) := by
  rcases free_stem_spec taken stem with ⟨hfree, heq⟩ | ⟨hstem, n, hn, heq, hfree, htaken⟩
  · rw [heq]
    exact ⟨0, Nat.zero_le _, .found hfree⟩
  · rw [heq]
    exact ⟨n - 2 + 1, passed_le_card hstem hn htaken,
      .next hstem (search_from_numbered hn htaken hfree)⟩

/-- The search for a free stem comes to an end, and to one only, after at most as many
attempts to number the stem as there are names taken. It finds the stem itself, or with the
least number from 2 on that makes it free; the names taken are more by that one, and those are
taken for the next layer. -/
theorem search_finds_first_free (taken : List String) (stem : String) :
    let name := freeStem taken stem
    (∃ attempts ≤ taken.toFinset.card, ∀ tries found,
      Search taken stem stem 2 tries found ↔ tries = attempts ∧ found = name) ∧
    (stem ∉ taken → name = stem) ∧
    (stem ∈ taken → ∃ n, IsLeast {n : Nat | 2 ≤ n ∧ stem ++ "-" ++ toString n ∉ taken} n ∧
      name = stem ++ "-" ++ toString n) ∧
    name ∉ taken ∧
    (name :: taken).toFinset = insert name taken.toFinset ∧
    (name :: taken).toFinset.card = taken.toFinset.card + 1 ∧
    ∀ (layer : String) (position : Nat) (rest : List String), Output.stem layer position = stem →
      stemsFrom taken position (layer :: rest) =
        name :: stemsFrom (name :: taken) (position + 1) rest := by
  intro name
  have hfresh : name ∉ taken := free_stem_fresh taken stem
  refine ⟨?_, ?_, ?_, hfresh, List.toFinset_cons, ?_, ?_⟩
  · obtain ⟨attempts, hbound, hsearch⟩ := search_ends taken stem
    refine ⟨attempts, hbound, fun tries found => ⟨hsearch.unique, ?_⟩⟩
    rintro ⟨rfl, rfl⟩
    exact hsearch
  · intro hstem
    rcases free_stem_spec taken stem with ⟨-, heq⟩ | ⟨htaken, -⟩
    · exact heq
    · exact absurd htaken hstem
  · intro hstem
    rcases free_stem_spec taken stem with ⟨hfree, -⟩ | ⟨-, n, hn, heq, hfree, htaken⟩
    · exact absurd hstem hfree
    · refine ⟨n, ⟨⟨hn, hfree⟩, fun k hk => ?_⟩, heq⟩
      by_contra hlt
      exact hk.2 (htaken k hk.1 (Nat.not_le.mp hlt))
  · rw [List.toFinset_cons, Finset.card_insert_of_notMem (List.mem_toFinset.not.mpr hfresh)]
  · rintro layer position rest rfl
    rfl

/-- One number is taken twice and the one after it is free, though a later one is taken again. -/
theorem search_finds_first_free_gap :
    let taken := ["a-2", "b", "a", "a-4", "a-2"]
    "a" ∈ taken ∧ freeStem taken "a" = "a-3" ∧
      (∃ n, IsLeast {n : Nat | 2 ≤ n ∧ "a" ++ "-" ++ toString n ∉ taken} n ∧
        freeStem taken "a" = "a" ++ "-" ++ toString n) ∧
      ∃ attempts ≤ 4, ∀ tries found,
        Search taken "a" "a" 2 tries found ↔ tries = attempts ∧ found = "a-3" := by
  intro taken
  have hfound : freeStem taken "a" = "a-3" := by decide +kernel
  have hmem : "a" ∈ taken := by decide
  obtain ⟨⟨attempts, hbound, hends⟩, -, hleast, -⟩ := search_finds_first_free taken "a"
  rw [hfound] at hends
  exact ⟨hmem, hfound, hleast hmem, attempts, hbound, hends⟩

end Groundcover.Output
