import Groundcover.Text.Pieces

/-!
Pieces of a list and the list itself: pieces hold no separators, and between separators they make up
the list again.
-/

namespace Groundcover.Text

variable {α : Type} {p : α → Bool} {xs : List α}

theorem pieces_ne_nil (xs : List α) : pieces p xs ≠ [] := by
  cases xs with
  | nil => simp [pieces]
  | cons a rest =>
    simp only [pieces]
    split
    · simp
    · split <;> simp

theorem pieces_cons {a : α} (ha : p a = false) (xs : List α) :
    ∃ piece more, pieces p xs = piece :: more ∧
      pieces p (a :: xs) = (a :: piece) :: more := by
  obtain ⟨piece, more, hpieces⟩ := List.exists_cons_of_ne_nil (pieces_ne_nil (p := p) xs)
  exact ⟨piece, more, hpieces, by simp [pieces, ha, hpieces]⟩

/-- Text without separators is one piece. -/
theorem pieces_of_none (h : ∀ a ∈ xs, p a = false) : pieces p xs = [xs] := by
  induction xs with
  | nil => rfl
  | cons a xs ih =>
    obtain ⟨ha, hrest⟩ := List.forall_mem_cons.mp h
    simp [pieces, ha, ih hrest]

/-- A separator parts the pieces before it from those behind it. -/
theorem pieces_append (xs : List α) {a : α} (ha : p a = true) (ys : List α) :
    pieces p (xs ++ a :: ys) = pieces p xs ++ pieces p ys := by
  induction xs with
  | nil => simp [pieces, ha]
  | cons x xs ih =>
    cases hx : p x with
    | true => simp [pieces, hx, ih]
    | false =>
      obtain ⟨piece, more, hpieces, hcons⟩ := pieces_cons hx xs
      simp [pieces, hx, ih, hpieces]

theorem separator_free_of_mem_pieces {piece : List α} (h : piece ∈ pieces p xs) :
    ∀ a ∈ piece, p a = false := by
  induction xs generalizing piece with
  | nil => simp_all [pieces]
  | cons x xs ih =>
    cases hx : p x with
    | true =>
      simp only [pieces, hx, if_true, List.mem_cons] at h
      rcases h with rfl | h
      · exact nofun
      · exact ih h
    | false =>
      obtain ⟨first, more, hpieces, hcons⟩ := pieces_cons hx xs
      rw [hcons] at h
      rcases List.mem_cons.mp h with rfl | h
      · exact List.forall_mem_cons.mpr ⟨hx, ih (hpieces ▸ List.mem_cons_self)⟩
      · exact ih (hpieces ▸ List.mem_cons_of_mem _ h)

/-- Pieces that are put together with separators are found again. -/
theorem pieces_intercalate {a : α} (ha : p a = true) {parts : List (List α)}
    (hne : parts ≠ []) (h : ∀ part ∈ parts, ∀ x ∈ part, p x = false) :
    pieces p ([a].intercalate parts) = parts := by
  induction parts with
  | nil => exact absurd rfl hne
  | cons part rest ih =>
    obtain ⟨hpart, hrest⟩ := List.forall_mem_cons.mp h
    cases rest with
    | nil => simpa [List.intercalate] using pieces_of_none hpart
    | cons next rest =>
      have hsplit : [a].intercalate (part :: next :: rest) =
          part ++ a :: [a].intercalate (next :: rest) := by
        simp [List.intercalate]
      rw [hsplit, pieces_append part ha, pieces_of_none hpart, ih (by simp) hrest,
        List.singleton_append]

end Groundcover.Text
