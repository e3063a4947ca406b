import Groundcover.Proofs.Single.ReadBack
import Groundcover.Single.Text

/-!
The literals of finite singles: a sign, digits, a point and digits, which denote a decimal that
reads back. Trailing zeros move into the exponent and out of it again, so the value of the shortest
decimal survives its layout on either side of the point.
-/

namespace Groundcover

theorem digits_value_eq (digits : List Char) :
    digitsValue digits = Nat.ofDigitChars 10 digits 0 := by
  simp only [digitsValue, Nat.ofDigitChars_eq_foldl, Nat.mul_comm]

theorem digits_value_to_digits (n : Nat) : digitsValue (Nat.toDigits 10 n) = n := by
  rw [digits_value_eq, Nat.ofDigitChars_ten_toDigits]

/-- Zeros behind digits multiply, zeros in front do nothing. -/
theorem digits_value_append_zeros (digits : List Char) (n : Nat) :
    digitsValue (digits ++ List.replicate n '0') = digitsValue digits * 10 ^ n := by
  rw [digits_value_eq, digits_value_eq, Nat.ofDigitChars_append, Nat.ofDigitChars_replicate_zero,
    Nat.mul_comm]

theorem digits_value_zeros_append (n : Nat) (digits : List Char) :
    digitsValue (List.replicate n '0' ++ digits) = digitsValue digits := by
  rw [digits_value_eq, digits_value_eq, Nat.ofDigitChars_append, Nat.ofDigitChars_replicate_zero,
    Nat.mul_zero]

namespace Decimal

/-- The decimal written as digits in front of a point and digits behind it. -/
def ofDigits (whole places : List Char) : Decimal :=
  ⟨digitsValue (whole ++ places), -(places.length : Int)⟩

theorem trimmed_spec (d : Decimal) : ∃ k : Nat,
    Nat.toDigits 10 d.coefficient = d.trimmed.1 ++ List.replicate k '0' ∧
      d.trimmed.2 = d.exponent + k := by
  have hsplit := List.takeWhile_append_dropWhile (p := fun c => c == '0')
    (l := (Nat.toDigits 10 d.coefficient).reverse)
  have hzeros : ∀ c ∈ (Nat.toDigits 10 d.coefficient).reverse.takeWhile (fun c => c == '0'),
      c = '0' := fun c hc => beq_iff_eq.mp (List.all_eq_true.mp List.all_takeWhile c hc)
  generalize hfront : (Nat.toDigits 10 d.coefficient).reverse.takeWhile (fun c => c == '0') = zeros
    at hsplit hzeros
  have hdigits : Nat.toDigits 10 d.coefficient =
      d.trimmed.1 ++ List.replicate zeros.length '0' := by
    have := congrArg List.reverse hsplit
    rw [List.reverse_append, List.reverse_reverse, List.eq_replicate_of_mem hzeros,
      List.reverse_replicate] at this
    exact this.symm
  refine ⟨zeros.length, hdigits, ?_⟩
  have hlength := congrArg List.length hdigits
  rw [List.length_append, List.length_replicate] at hlength
  unfold trimmed at hlength ⊢
  simp only at hlength ⊢
  rw [hlength]
  omega

theorem trimmed_value (d : Decimal) :
    (digitsValue d.trimmed.1 : ℚ) * 10 ^ d.trimmed.2 = d.value := by
  obtain ⟨k, hdigits, hexponent⟩ := d.trimmed_spec
  have hvalue : d.coefficient = digitsValue d.trimmed.1 * 10 ^ k := by
    rw [← digits_value_append_zeros, ← hdigits, digits_value_to_digits]
  rw [value, hexponent, hvalue, zpow_add₀ (by norm_num), zpow_natCast]
  push_cast
  ring

theorem trimmed_digits (d : Decimal) : ∀ c ∈ d.trimmed.1, c.isDigit = true := by
  obtain ⟨k, hdigits, -⟩ := d.trimmed_spec
  intro c hc
  have hmem : c ∈ Nat.toDigits 10 d.coefficient := hdigits ▸ List.mem_append_left _ hc
  exact Nat.isDigit_of_mem_toDigits (by decide) (by decide) hmem

theorem trimmed_ne_nil {d : Decimal} (h : d.coefficient ≠ 0) : d.trimmed.1 ≠ [] := by
  obtain ⟨k, hdigits, -⟩ := d.trimmed_spec
  intro hnil
  apply h
  rw [← digits_value_to_digits d.coefficient, hdigits, hnil, digits_value_append_zeros]
  exact Nat.zero_mul _

/-- A text of digits that denotes a number, with a point exactly when digits follow it. -/
def Positional (text : List Char) (number : ℚ) : Prop :=
  ∃ whole places : List Char, whole ≠ [] ∧ (∀ c ∈ whole ++ places, c.isDigit = true) ∧
    (ofDigits whole places).value = number ∧
    text = whole ++ if places = [] then [] else '.' :: places

section Layout

variable {digits : List Char} (hdigits : ∀ c ∈ digits, c.isDigit = true)
include hdigits

/-- Zeros fill a whole number up to the point. -/
theorem positional_whole (hne : digits ≠ []) (n : Nat) :
    Positional (digits ++ List.replicate n '0') (digitsValue digits * 10 ^ (n : ℤ)) := by
  refine ⟨digits ++ List.replicate n '0', [], by simp [hne], ?_, ?_, by simp⟩
  · intro c hc
    rw [List.append_nil] at hc
    rcases List.mem_append.mp hc with hc | hc
    · exact hdigits c hc
    · exact List.eq_of_mem_replicate hc ▸ rfl
  · simp [ofDigits, value, digits_value_append_zeros]

/-- The point stands among the digits. -/
theorem positional_split {n : Nat} (hpos : 0 < n) (hlt : n < digits.length) :
    Positional (digits.take (digits.length - n) ++ '.' :: digits.drop (digits.length - n))
      (digitsValue digits * 10 ^ (-(n : ℤ))) := by
  have hplaces : (digits.drop (digits.length - n)).length = n := by
    rw [List.length_drop]
    omega
  refine ⟨digits.take (digits.length - n), digits.drop (digits.length - n), ?_, ?_, ?_, ?_⟩
  · apply List.ne_nil_of_length_pos
    rw [List.length_take]
    omega
  · rw [List.take_append_drop]
    exact hdigits
  · rw [ofDigits, value, List.take_append_drop, hplaces]
  · rw [if_neg (List.ne_nil_of_length_pos (by omega))]

/-- Zeros fill a small number up to the point from behind. -/
theorem positional_small (hne : digits ≠ []) {n : Nat} (hle : digits.length ≤ n) :
    Positional ('0' :: '.' :: List.replicate (n - digits.length) '0' ++ digits)
      (digitsValue digits * 10 ^ (-(n : ℤ))) := by
  have hzeros : ['0'] ++ (List.replicate (n - digits.length) '0' ++ digits) =
      List.replicate (1 + (n - digits.length)) '0' ++ digits := by
    rw [List.replicate_add, List.append_assoc]
    rfl
  refine ⟨['0'], List.replicate (n - digits.length) '0' ++ digits, by simp, ?_, ?_, by simp [hne]⟩
  · intro c hc
    rw [hzeros] at hc
    rcases List.mem_append.mp hc with hc | hc
    · exact List.eq_of_mem_replicate hc ▸ rfl
    · exact hdigits c hc
  · have hplaces : (List.replicate (n - digits.length) '0' ++ digits).length = n := by
      rw [List.length_append, List.length_replicate]
      omega
    rw [ofDigits, value, hplaces, hzeros, digits_value_zeros_append]

end Layout

theorem positional_text {d : Decimal} (h : d.coefficient ≠ 0) :
    Positional d.positional d.value := by
  have hdigits := d.trimmed_digits
  have hne := trimmed_ne_nil h
  rw [← d.trimmed_value]
  unfold positional
  generalize d.trimmed = t at hdigits hne ⊢
  obtain ⟨digits, exponent⟩ := t
  dsimp only at hdigits hne ⊢
  split
  · rename_i he
    obtain ⟨n, rfl⟩ := Int.eq_ofNat_of_zero_le he
    exact positional_whole hdigits hne n
  · rename_i he
    obtain ⟨n, hn⟩ := Int.eq_ofNat_of_zero_le (show 0 ≤ -exponent by omega)
    obtain rfl : exponent = -(n : ℤ) := by omega
    rw [Int.neg_neg, Int.toNat_natCast]
    split
    · rename_i hlt
      exact positional_split hdigits (by omega) hlt
    · rename_i hle
      exact positional_small hdigits hne (by omega)

end Decimal

namespace Single

theorem units_pos {x : Single} (h : x.rank ≠ 0) : 0 < x.units := by
  have hrank := x.rank_eq
  rw [units_eq]
  apply Nat.mul_pos _ (Nat.two_pow_pos _)
  by_contra hzero
  have hsig : x.significand = 0 := by omega
  have he : x.exponent = 0 := by
    by_contra hne
    rw [significand, if_neg hne] at hsig
    exact absurd hsig (by simp [hiddenBit])
  rw [hsig, he] at hrank
  exact h hrank

/-- The decimal that the text of a finite single denotes, without its sign. -/
def written (x : Single) : Decimal := if x.rank = 0 then ⟨0, 0⟩ else x.shortest

theorem written_reads_back {x : Single} (hx : x.isFinite = true) : x.ReadsBack x.written := by
  unfold written
  split
  · rename_i hzero
    exact hzero.symm
  · rename_i hne
    exact shortest_reads_back hx (units_pos hne)

/-- The digits of a finite single denote the decimal that was found for it. -/
theorem magnitude_text {x : Single} (hx : x.isFinite = true) :
    Decimal.Positional x.magnitudeText x.written.value := by
  have htop := rank_lt_top hx
  have hnan : x.isNaN = false := decide_eq_false (Nat.not_lt.mpr (Nat.le_of_lt htop))
  have hback := written_reads_back hx
  unfold magnitudeText
  unfold written at hback ⊢
  rw [hnan, if_neg Bool.false_ne_true, if_neg (Nat.ne_of_lt htop)]
  split
  · exact ⟨['0'], [], by simp, by simp, rfl, rfl⟩
  · rename_i hne
    rw [if_neg hne] at hback
    apply Decimal.positional_text
    intro hc
    rw [ReadsBack, Decimal.rank, if_pos hc] at hback
    exact hne hback.symm

/-- A literal is a sign, digits, a point and digits, and the digits denote the decimal that was
found for the number. -/
theorem literal_shape {x : Single} (hx : x.isFinite = true) : ∃ whole places : List Char,
    whole ≠ [] ∧ places ≠ [] ∧ (∀ c ∈ whole ++ places, c.isDigit = true) ∧
      x.literal.toList = (if x.isNegative then ['-'] else []) ++ (whole ++ '.' :: places) ∧
      (Decimal.ofDigits whole places).value = x.written.value := by
  obtain ⟨whole, places, hwhole, hdigits, hvalue, htext⟩ := magnitude_text hx
  have hnan : x.isNaN = false :=
    decide_eq_false (Nat.not_lt.mpr (Nat.le_of_lt (rank_lt_top hx)))
  have hsigned : x.text.toList = (if x.isNegative then ['-'] else []) ++ x.magnitudeText := by
    cases hneg : x.isNegative <;> simp [text, hneg, hnan]
  have hpoint : '.' ∉ (if x.isNegative then ['-'] else []) ++ whole := by
    intro hmem
    rcases List.mem_append.mp hmem with hmem | hmem
    · cases hneg : x.isNegative <;> simp [hneg] at hmem
    · exact absurd (hdigits '.' (List.mem_append_left _ hmem)) (by decide)
  by_cases hplaces : places = []
  · -- a whole number gets a place of its own
    subst hplaces
    have hliteral : x.literal = x.text ++ ".0" := by
      rw [literal, hsigned, htext, if_pos rfl, List.append_nil, if_neg]
      simpa using hpoint
    refine ⟨whole, ['0'], hwhole, by simp, ?_, ?_, ?_⟩
    · intro c hc
      rcases List.mem_append.mp hc with hc | hc
      · exact hdigits c (List.mem_append_left _ hc)
      · rw [List.mem_singleton.mp hc]
        rfl
    · rw [hliteral, String.toList_append, hsigned, htext]
      simp
    · have hzero := digits_value_append_zeros whole 1
      rw [← hvalue]
      simp only [Decimal.ofDigits, Decimal.value, List.append_nil, List.length_nil]
      rw [show ['0'] = List.replicate 1 '0' from rfl, hzero]
      simp
  · have hliteral : x.literal = x.text := by
      rw [literal, if_pos]
      simp [hsigned, htext, hplaces]
    refine ⟨whole, places, hwhole, hplaces, hdigits, ?_, hvalue⟩
    rw [hliteral, hsigned, htext, if_neg hplaces]

/-- A number is its sign and its rank. -/
theorem of_rank_rank (x : Single) : ofRank x.isNegative x.rank = x := by
  have hlt := x.bits.toNat_lt
  have hword : (if x.isNegative then signBit + x.rank else x.rank) = x.bits.toNat := by
    unfold isNegative rank
    by_cases hneg : signBit ≤ x.bits.toNat
    · rw [decide_eq_true hneg, if_pos rfl]
      unfold signBit at hneg ⊢
      omega
    · rw [decide_eq_false hneg, if_neg Bool.false_ne_true]
      exact Nat.mod_eq_of_lt (Nat.not_le.mp hneg)
  rw [ofRank, hword, UInt32.ofNat_toNat]

end Single

end Groundcover
