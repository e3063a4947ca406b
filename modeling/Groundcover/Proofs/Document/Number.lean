import Groundcover.Document.Number
import Groundcover.Proofs.Document.Quoted

/-!
Whole numbers read back. The decimal digits of a number have no sign and announce no base, so in
front of a comma they are read as the number they were made of.
-/

namespace Groundcover.Document.Number

open Quoted

variable {digits : List Nat} {text rest : List Char}

theorem is_integer_char_of_digit {d : Nat} (h : d < 10) :
    isIntegerChar (Nat.digitChar d) = true := by
  simp [isIntegerChar, hex_digit_of_digit (Nat.lt_trans h (by decide))]

theorem digits_in_of_digits (value : Nat) (h : ∀ d ∈ digits, d < 10) :
    digitsIn 10 value (digits.map Nat.digitChar) =
      .ok (digits.foldl (fun value d => value * 10 + d) value) := by
  induction digits generalizing value with
  | nil => rfl
  | cons d digits ih =>
    obtain ⟨hd, hdigits⟩ := List.forall_mem_cons.mp h
    have hunderscore : Nat.digitChar d ≠ '_' := by
      have hall : ∀ d < 10, Nat.digitChar d ≠ '_' := by decide
      exact hall d hd
    simp only [List.map_cons, digitsIn, hunderscore, if_false,
      hex_digit_of_digit (Nat.lt_trans hd (by decide)), hd, if_true, List.foldl_cons]
    exact ih _ hdigits

/-- Digits in front of a comma announce no base, since a base has a letter behind its zero. -/
theorem base_of_digits (h : ∀ c ∈ text, c.isDigit = true) :
    baseOf (text ++ ',' :: rest) = (10, text ++ ',' :: rest) := by
  have hletter : ∀ c : Char, c.isDigit = true → c ≠ 'b' ∧ c ≠ 'o' ∧ c ≠ 'x' := by
    rintro c hc
    refine ⟨?_, ?_, ?_⟩ <;> rintro rfl <;> cases hc
  rcases text with _ | ⟨c, _ | ⟨second, more⟩⟩
  · rfl
  · simp [baseOf]
  · obtain ⟨hb, ho, hx⟩ := hletter second (h second (by simp))
    simp [baseOf, hb, ho, hx]

theorem sign_of_digits (h : ∀ c ∈ text, c.isDigit = true) :
    signOf (text ++ ',' :: rest) = (false, text ++ ',' :: rest) := by
  cases text with
  | nil => rfl
  | cons c text =>
    have hc := h c List.mem_cons_self
    have hsigns : c ≠ '-' ∧ c ≠ '+' := by
      constructor <;> rintro rfl <;> cases hc
    simp [signOf, hsigns]

theorem integer_of_digits (n : Nat) (rest : List Char) :
    integerOf (Nat.toDigits 10 n ++ ',' :: rest) = .ok (⟨false, n, none⟩, ',' :: rest) := by
  obtain ⟨digits, hdigits, hsmall, hvalue⟩ := digits_of_number (b := 10) (by decide) n
  have hall : ∀ c ∈ Nat.toDigits 10 n, c.isDigit = true :=
    fun c hc => Nat.isDigit_of_mem_toDigits (by decide) (by decide) hc
  have hinteger : ∀ c ∈ Nat.toDigits 10 n, isIntegerChar c = true := by
    intro c hc
    rw [hdigits] at hc
    obtain ⟨d, hd, rfl⟩ := List.mem_map.mp hc
    exact is_integer_char_of_digit (hsmall d hd)
  have hcomma : isIntegerChar ',' = false := by decide
  have hrun : (Nat.toDigits 10 n ++ ',' :: rest).takeWhile isIntegerChar = Nat.toDigits 10 n := by
    rw [List.takeWhile_append_of_pos hinteger, List.takeWhile_cons_of_neg (by simp [hcomma]),
      List.append_nil]
  have hrest : (Nat.toDigits 10 n ++ ',' :: rest).dropWhile isIntegerChar = ',' :: rest := by
    rw [List.dropWhile_append_of_pos hinteger, List.dropWhile_cons_of_neg (by simp [hcomma])]
  have hstart : ((Nat.toDigits 10 n).isEmpty || (Nat.toDigits 10 n).head? == some '_') = false := by
    cases hcases : Nat.toDigits 10 n with
    | nil => exact absurd hcases Nat.toDigits_ne_nil
    | cons c more =>
      rw [hcases] at hall
      have hc := hall c List.mem_cons_self
      have hunderscore : c ≠ '_' := by
        rintro rfl
        cases hc
      simp [hunderscore]
  have hin : digitsIn 10 0 (Nat.toDigits 10 n) = .ok n := by
    rw [hdigits, digits_in_of_digits 0 hsmall, hvalue]
  have hsuffix : integerSuffix? (',' :: rest) integerTypes = none := by
    simp [integerTypes, integerSuffix?, afterWord?, Reader.after?]
  simp only [integerOf, sign_of_digits hall, base_of_digits hall, hrun, hrest, hstart, hin, hsuffix,
    Bool.false_eq_true, if_false]

theorem word_of_digits (n : UInt32) (rest : List Char) :
    wordOf ((toString n.toNat).toList ++ ',' :: rest) = .ok (n, ',' :: rest) := by
  have hfits : wordType.fits false n.toNat = true := decide_eq_true n.toNat_lt
  rw [Nat.toString_eq_ofList_toDigits, String.toList_ofList]
  simp [wordOf, integer_of_digits, hfits]

end Groundcover.Document.Number
