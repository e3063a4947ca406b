import Groundcover.Document.Quoted
import Groundcover.Text.Escape
import Mathlib.Data.List.Basic

/-!
Quoted text read back. Every character has an escaped form that stands for it alone, so a text
between quotes, escaped character by character, is read as it was, whatever stands behind it.
-/

namespace Groundcover.Document

/-- The digits of a number, from which its value can be put together again. -/
theorem digits_of_number {b : Nat} (hb : 1 < b) (n : Nat) :
    ∃ digits : List Nat, Nat.toDigits b n = digits.map Nat.digitChar ∧ (∀ d ∈ digits, d < b) ∧
      digits.foldl (fun value d => value * b + d) 0 = n := by
  induction n using Nat.strongRecOn with
  | ind n ih =>
    rw [Nat.toDigits_eq_if hb]
    split
    · rename_i hlt
      exact ⟨[n], rfl, by simpa using hlt, by simp⟩
    · rename_i hge
      have hpos : 0 < n := by omega
      obtain ⟨digits, hdigits, hsmall, hvalue⟩ := ih (n / b) (Nat.div_lt_self hpos hb)
      refine ⟨digits ++ [n % b], by simp [hdigits], ?_, ?_⟩
      · simpa [or_imp, forall_and] using ⟨hsmall, Nat.mod_lt n (by omega)⟩
      · rw [List.foldl_append, hvalue]
        exact Nat.div_add_mod' n b

theorem length_le_flat_map {α β : Type} {f : α → List β} {l : List α} (h : ∀ a ∈ l, f a ≠ []) :
    l.length ≤ (l.flatMap f).length := by
  induction l with
  | nil => exact Nat.zero_le _
  | cons a l ih =>
    obtain ⟨ha, hl⟩ := List.forall_mem_cons.mp h
    have hpos := List.length_pos_of_ne_nil ha
    have hle := ih hl
    rw [List.flatMap_cons, List.length_append, List.length_cons]
    omega

namespace Quoted

theorem hex_digit_of_digit {d : Nat} (h : d < 16) : hexDigit? (Nat.digitChar d) = some d := by
  have hall : ∀ d < 16, hexDigit? (Nat.digitChar d) = some d := by decide
  exact hall d h

theorem digit_char_ne_brace {d : Nat} (h : d < 16) : Nat.digitChar d ≠ '\x7d' := by
  have hall : ∀ d < 16, Nat.digitChar d ≠ '\x7d' := by decide
  exact hall d h

theorem code_of_digits {digits : List Nat} {more : Nat} (code : Nat) (rest : List Char)
    (hsmall : ∀ d ∈ digits, d < 16) (hlength : digits.length ≤ more) :
    codeOf more code (digits.map Nat.digitChar ++ '\x7d' :: rest) =
      .ok (digits.foldl (fun value d => value * 16 + d) code, rest) := by
  induction digits generalizing more code with
  | nil => cases more <;> rfl
  | cons d digits ih =>
    obtain ⟨hd, hdigits⟩ := List.forall_mem_cons.mp hsmall
    obtain ⟨more, rfl⟩ : ∃ k, more = k + 1 := ⟨more - 1, by simp at hlength; omega⟩
    have hrest : digits.length ≤ more := by simpa using hlength
    have hbrace := digit_char_ne_brace hd
    simp only [List.map_cons, List.cons_append, List.foldl_cons, codeOf, hex_digit_of_digit hd]
    exact ih (code * 16 + d) hdigits hrest

/-- A code point between braces stands for its character. -/
theorem char_of_code (c : Char) (rest : List Char) :
    charOfCode ('\x7b' :: (Nat.toDigits 16 c.toNat ++ '\x7d' :: rest)) = .ok (c, rest) := by
  obtain ⟨digits, hdigits, hsmall, hvalue⟩ := digits_of_number (b := 16) (by decide) c.toNat
  have hvalid : c.toNat.isValidChar := c.valid
  have hlength : digits.length ≤ 6 := by
    have hlt : c.toNat < 16 ^ 6 := by
      rw [Nat.isValidChar] at hvalid
      omega
    rw [← List.length_map Nat.digitChar, ← hdigits]
    exact (Nat.length_toDigits_le_iff (by decide) (by decide)).mpr hlt
  have hcode := code_of_digits 0 rest hsmall hlength
  rw [← hdigits, hvalue] at hcode
  -- There is a digit at least, so that the braces are not empty.
  obtain ⟨first, more, hfirst, hbrace⟩ : ∃ first more,
      Nat.toDigits 16 c.toNat = first :: more ∧ first ≠ '\x7d' := by
    cases digits with
    | nil => exact absurd hdigits Nat.toDigits_ne_nil
    | cons d digits => exact ⟨_, _, hdigits, digit_char_ne_brace (List.forall_mem_cons.mp hsmall).1⟩
  rw [hfirst, List.cons_append] at hcode ⊢
  have hback : Char.ofNatAux c.toNat hvalid = c := Char.ext rfl
  unfold charOfCode
  split
  case h_1 heq =>
    injection heq with _ heq
    injection heq with hsame _
    exact absurd hsame hbrace
  case h_2 heq =>
    injection heq with _ heq
    rw [← heq, hcode]
    exact (dif_pos hvalid).trans (congrArg (fun c => Except.ok (c, rest)) hback)
  case h_3 hother => exact absurd rfl (hother _)

section Closing

open Text.Escape

variable {fuel : Nat} {c : Char} {s rest : List Char}

theorem closing_plain (hquote : c ≠ '"') (hslash : c ≠ '\\') :
    closing (fuel + 1) (c :: s) = (closing fuel s).map fun (text, rest) => (c :: text, rest) := by
  simp [closing, hslash]

theorem closing_escape {mark : Char} (hline : mark ≠ '\n') (hreturn : mark ≠ '\r')
    (h : escape (mark :: s) = .ok (c, rest)) :
    closing (fuel + 1) ('\\' :: mark :: s) =
      (closing fuel rest).map fun (text, rest) => (c :: text, rest) := by
  simp [closing, hline, hreturn, h]

/-- An escaped character is read as that character. -/
theorem closing_escaped (c : Char) (s : List Char) :
    closing (fuel + 1) (escaped c ++ s) =
      (closing fuel s).map fun (text, rest) => (c :: text, rest) := by
  unfold escaped
  split
  case h_8 =>
    rename_i hquote hslash
    split
    · exact closing_escape (by decide) (by decide) (by simpa [escape] using char_of_code c s)
    · exact closing_plain hquote hslash
  all_goals exact closing_escape (by decide) (by decide) rfl

theorem closing_text (text rest : List Char) (h : text.length < fuel) :
    closing fuel (text.flatMap escaped ++ '"' :: rest) = .ok (text, rest) := by
  induction text generalizing fuel with
  | nil =>
    obtain ⟨fuel, rfl⟩ : ∃ k, fuel = k + 1 := ⟨fuel - 1, by simp at h; omega⟩
    rfl
  | cons c text ih =>
    obtain ⟨fuel, rfl⟩ : ∃ k, fuel = k + 1 := ⟨fuel - 1, by simp at h; omega⟩
    have hrest : text.length < fuel := by simpa using h
    rw [List.flatMap_cons, List.append_assoc, closing_escaped, ih hrest]
    rfl

theorem escaped_ne_nil (c : Char) : escaped c ≠ [] := by
  unfold escaped
  split
  case h_8 => split <;> simp
  all_goals simp

/-- What was quoted is read as it was. -/
theorem text_of_quote (text rest : List Char) : textOf (quote text ++ rest) = .ok (text, rest) := by
  have hlength : text.length < (text.flatMap escaped ++ '"' :: rest).length + 1 := by
    have hle := length_le_flat_map (l := text) fun c _ => escaped_ne_nil c
    rw [List.length_append]
    omega
  simpa [quote, textOf] using closing_text text rest hlength

end Closing

end Quoted

end Groundcover.Document
