import Groundcover.Proofs.Single.Rounding
import Groundcover.Single.Shortest
import Mathlib.Algebra.Order.Field.Power
import Mathlib.Tactic.FieldSimp
import Mathlib.Tactic.Positivity

/-!
The shortest decimal of a single reads back as that single. On the grid of nine digits the steps are
smaller than a hundred-millionth of the number, so the point below it is near enough to round to it,
and the search for a shorter decimal takes only what reads back.
-/

namespace Groundcover

/-- A ratio below a half of the least single rounds to zero. -/
theorem nearest_rank_underflow {num den : Nat} (h : 2 * num < den) : nearestRank num den = 0 := by
  have hround : roundHalfEven num (den * Nat.pow 2 0) = 0 := by
    apply round_half_even_of_near <;> simp only [Nat.pow_eq, Nat.pow_zero] <;> omega
  have hquotient : num / den = 0 := Nat.div_eq_of_lt (by omega)
  have hstep : (num / den).log2 - 23 = 0 := by
    rw [hquotient]
    rfl
  simp only [nearestRank, hstep, hround]
  rfl

/-- A ratio past the binades of finite singles rounds to infinity. -/
theorem nearest_rank_overflow {num den : Nat} (h : 278 ≤ (num / den).log2) :
    nearestRank num den = Single.topRank := by
  have hrank := Nat.mul_le_mul_right Single.hiddenBit
    (show 255 ≤ (num / den).log2 - 23 by omega)
  simp only [nearestRank, Single.topRank]
  omega

theorem eight_pow_le (n : Nat) : 2 ^ (3 * n) ≤ 10 ^ n := by
  rw [Nat.pow_mul]
  exact Nat.pow_le_pow_left (by decide) n

namespace Decimal

/-- The number that a decimal denotes. -/
def value (d : Decimal) : ℚ := d.coefficient * 10 ^ d.exponent

theorem ratio_pos (d : Decimal) : 0 < d.ratio.2 := by
  unfold ratio
  split
  · exact Nat.one_pos
  · exact Nat.pow_pos (by decide)

theorem ratio_value (d : Decimal) : (d.ratio.1 : ℚ) = d.value * 2 ^ 149 * d.ratio.2 := by
  unfold ratio value
  split
  · rename_i he
    obtain ⟨n, hn⟩ := Int.eq_ofNat_of_zero_le he
    simp only [hn, Int.toNat_natCast, Nat.pow_eq, Single.unitsPerOne]
    push_cast
    rw [zpow_natCast]
    ring
  · rename_i he
    obtain ⟨n, hn⟩ := Int.eq_ofNat_of_zero_le (show 0 ≤ -d.exponent by omega)
    have hd : d.exponent = -(n : ℤ) := by omega
    simp only [hd, Int.neg_neg, Int.toNat_natCast, Nat.pow_eq, Single.unitsPerOne]
    push_cast
    rw [zpow_neg, zpow_natCast]
    field_simp
    norm_num

theorem rank_huge {d : Decimal} (hc : d.coefficient ≠ 0) (he : 100 < d.exponent) :
    nearestRank d.ratio.1 d.ratio.2 = Single.topRank := by
  obtain ⟨n, hn⟩ := Int.eq_ofNat_of_zero_le (show 0 ≤ d.exponent by omega)
  have hratio : d.ratio = (d.coefficient * 10 ^ n * 2 ^ 149, 1) := by
    simp [ratio, hn, Single.unitsPerOne]
  have hpower : 2 ^ (3 * n + 149) ≤ d.coefficient * 10 ^ n * 2 ^ 149 := by
    rw [Nat.pow_add]
    apply Nat.mul_le_mul_right
    exact Nat.le_trans (eight_pow_le n) (Nat.le_mul_of_pos_left _ (Nat.pos_of_ne_zero hc))
  rw [hratio]
  apply nearest_rank_overflow
  simp only [Nat.div_one]
  have hne : d.coefficient * 10 ^ n * 2 ^ 149 ≠ 0 := by positivity
  have := (Nat.le_log2 hne).mpr hpower
  omega

theorem rank_tiny {d : Decimal} (he : d.exponent < -((d.coefficient.log2 : Int) + 100)) :
    nearestRank d.ratio.1 d.ratio.2 = 0 := by
  obtain ⟨n, hn⟩ := Int.eq_ofNat_of_zero_le (show 0 ≤ -d.exponent by omega)
  have hd : d.exponent = -(n : ℤ) := by omega
  have hneg : ¬0 ≤ d.exponent := by omega
  have hratio : d.ratio = (d.coefficient * 2 ^ 149, 10 ^ n) := by
    simp only [ratio, if_neg hneg, hn, Single.unitsPerOne, Int.toNat_natCast, Nat.pow_eq]
  have hcoefficient : d.coefficient < 2 ^ (d.coefficient.log2 + 1) := Nat.lt_log2_self
  rw [hratio]
  apply nearest_rank_underflow
  calc 2 * (d.coefficient * 2 ^ 149)
      < 2 * (2 ^ (d.coefficient.log2 + 1) * 2 ^ 149) := by
        have := Nat.mul_lt_mul_of_pos_right hcoefficient (Nat.two_pow_pos 149)
        omega
    _ = 2 ^ (d.coefficient.log2 + 151) := by ring
    _ ≤ 2 ^ (3 * n) := Nat.pow_le_pow_right (by decide) (by omega)
    _ ≤ 10 ^ n := eight_pow_le n

/-- The shortcuts for huge and tiny decimals agree with rounding. -/
theorem rank_eq (d : Decimal) : d.rank = nearestRank d.ratio.1 d.ratio.2 := by
  unfold rank
  split
  · rename_i hzero
    have hnum : d.ratio.1 = 0 := by
      unfold ratio
      split <;> simp [hzero]
    rw [hnum, nearest_rank_underflow d.ratio_pos]
  · rename_i hc
    split
    · rename_i he
      exact (rank_huge hc he).symm
    · split
      · rename_i he
        exact (rank_tiny he).symm
      · rfl

theorem rank_congr {d e : Decimal} (h : d.value = e.value) : d.rank = e.rank := by
  rw [rank_eq, rank_eq]
  apply nearest_rank_congr d.ratio_pos e.ratio_pos
  have hd := d.ratio_value
  have he := e.ratio_value
  have : (d.ratio.1 * e.ratio.2 : ℚ) = e.ratio.1 * d.ratio.2 := by
    rw [hd, he, h]
    ring
  exact_mod_cast this

end Decimal

namespace Single

/-- What lies within a quarter of a step of a finite single reads as that single. -/
theorem reads_back_of_near {x : Single} (hx : x.isFinite = true) {d : Decimal}
    (hlow : 4 * (x.units : ℚ) < 4 * (d.value * 2 ^ 149) + 2 ^ (x.exponent - 1))
    (hhigh : 4 * (d.value * 2 ^ 149) < 4 * (x.units : ℚ) + 2 ^ (x.exponent - 1)) :
    x.ReadsBack d := by
  have hden : (0 : ℚ) < d.ratio.2 := by exact_mod_cast d.ratio_pos
  have hlow' := mul_lt_mul_of_pos_right hlow hden
  have hhigh' := mul_lt_mul_of_pos_right hhigh hden
  have hnum := d.ratio_value
  have hnormal : x.exponent - 1 = 0 ∨ 2 ^ 23 ≤ x.significand := by
    by_cases he : x.exponent = 0
    · exact .inl (by omega)
    · right
      rw [significand, if_neg he]
      exact Nat.le_add_right _ _
  have hunits : x.significand * (2 ^ (x.exponent - 1) * d.ratio.2) = x.units * d.ratio.2 := by
    rw [units_eq, Nat.mul_assoc]
  have hrank : nearestRank d.ratio.1 d.ratio.2 =
      min ((x.exponent - 1) * hiddenBit + x.significand) topRank := by
    apply nearest_rank_of_near x.significand_lt hnormal
    · rw [hunits]
      have : 4 * (x.units * d.ratio.2 : ℚ) < 4 * d.ratio.1 + 2 ^ (x.exponent - 1) * d.ratio.2 := by
        rw [hnum]
        linarith
      exact_mod_cast this
    · rw [hunits]
      have : 4 * (d.ratio.1 : ℚ) <
          4 * (x.units * d.ratio.2) + 2 ^ (x.exponent - 1) * d.ratio.2 := by
        rw [hnum]
        linarith
      exact_mod_cast this
  rw [ReadsBack, Decimal.rank_eq, hrank, ← x.rank_eq]
  exact Nat.min_eq_left (Nat.le_of_lt (rank_lt_top hx))

theorem ratio_at_pos (x : Single) (exponent : Int) : 0 < (x.ratioAt exponent).2 := by
  unfold ratioAt
  split
  · exact Nat.mul_pos (by decide) (Nat.pow_pos (by decide))
  · exact Nat.pow_pos (by decide)

theorem ratio_at_value (x : Single) (exponent : Int) :
    ((x.ratioAt exponent).1 : ℚ) * (10 ^ exponent * 2 ^ 149) =
      x.units * (x.ratioAt exponent).2 := by
  unfold ratioAt
  split
  · rename_i he
    obtain ⟨n, rfl⟩ := Int.eq_ofNat_of_zero_le he
    simp only [Int.toNat_natCast, Nat.pow_eq, unitsPerOne]
    push_cast
    rw [zpow_natCast]
    ring
  · rename_i he
    obtain ⟨n, hn⟩ := Int.eq_ofNat_of_zero_le (show 0 ≤ -exponent by omega)
    have hd : exponent = -(n : ℤ) := by omega
    simp only [hd, Int.neg_neg, Int.toNat_natCast, Nat.pow_eq, unitsPerOne]
    push_cast
    rw [zpow_neg, zpow_natCast]
    field_simp
    norm_num

/-- The point of a grid below a number. -/
def below (x : Single) (exponent : Int) : Decimal :=
  ⟨(x.ratioAt exponent).1 / (x.ratioAt exponent).2, exponent⟩

theorem below_value (x : Single) (exponent : Int) :
    (x.below exponent).value * 2 ^ 149 ≤ x.units ∧
      (x.units : ℚ) < (x.below exponent).value * 2 ^ 149 + 10 ^ exponent * 2 ^ 149 := by
  have hpower : (0 : ℚ) < 10 ^ exponent := by positivity
  have hden := x.ratio_at_pos exponent
  have hvalue := x.ratio_at_value exponent
  simp only [below, Decimal.value]
  generalize (x.ratioAt exponent).1 = num at *
  generalize (x.ratioAt exponent).2 = den at *
  generalize (10 : ℚ) ^ exponent = power at *
  have hstep : 0 < power * 2 ^ 149 := by positivity
  have hden' : (0 : ℚ) < den := by exact_mod_cast hden
  have hlow : ((num / den : ℕ) : ℚ) * den ≤ num := by exact_mod_cast Nat.div_mul_le_self num den
  have hhigh : (num : ℚ) < ((num / den : ℕ) + 1) * den := by
    exact_mod_cast Nat.lt_mul_of_div_lt (Nat.lt_succ_self (num / den)) hden
  constructor
  · apply le_of_mul_le_mul_right _ hden'
    calc (num / den : ℕ) * power * 2 ^ 149 * den
        = (num / den : ℕ) * den * (power * 2 ^ 149) := by ring
      _ ≤ num * (power * 2 ^ 149) := mul_le_mul_of_nonneg_right hlow hstep.le
      _ = x.units * den := hvalue
  · apply lt_of_mul_lt_mul_right _ hden'.le
    calc (x.units : ℚ) * den = num * (power * 2 ^ 149) := hvalue.symm
      _ < ((num / den : ℕ) + 1) * den * (power * 2 ^ 149) := mul_lt_mul_of_pos_right hhigh hstep
      _ = ((num / den : ℕ) * power * 2 ^ 149 + power * 2 ^ 149) * den := by ring

/-- A positive number has at least the value of its first digit's place. -/
theorem pow_length_le {n : Nat} (hn : 0 < n) : 10 ^ ((Nat.toDigits 10 n).length - 1) ≤ n := by
  by_cases hone : (Nat.toDigits 10 n).length - 1 = 0
  · rw [hone]
    exact hn
  · by_contra hlt
    have := (Nat.length_toDigits_le_iff (by decide) (Nat.pos_of_ne_zero hone)).mpr
      (Nat.not_le.mp hlt)
    omega

/-- The first digit of a number stands where its places say. -/
theorem first_digit {x : Single} (hx : 0 < x.units) :
    10 ^ (x.decimalPlaces - 1) * 2 ^ 149 ≤ (x.units : ℚ) := by
  have hone : 2 ^ 149 ≤ x.units * 10 ^ 60 := by
    calc 2 ^ 149 ≤ 1 * 10 ^ 60 := by norm_num
      _ ≤ x.units * 10 ^ 60 := Nat.mul_le_mul_right _ hx
  generalize hscaled : x.units * 10 ^ 60 / 2 ^ 149 = scaled
  have hpos : 0 < scaled := hscaled ▸ Nat.div_pos hone (Nat.two_pow_pos 149)
  have hlength := Nat.length_toDigits_pos (b := 10) (n := scaled)
  have hplaces : x.decimalPlaces - 1 = ((Nat.toDigits 10 scaled).length - 1 : ℕ) - (60 : ℕ) := by
    have : x.decimalPlaces = ((Nat.toDigits 10 scaled).length : Int) - 60 := by
      rw [← hscaled]
      rfl
    omega
  have hscale : 10 ^ ((Nat.toDigits 10 scaled).length - 1) * 2 ^ 149 ≤ x.units * 10 ^ 60 := by
    calc 10 ^ ((Nat.toDigits 10 scaled).length - 1) * 2 ^ 149
        ≤ scaled * 2 ^ 149 := Nat.mul_le_mul_right _ (pow_length_le hpos)
      _ ≤ x.units * 10 ^ 60 := hscaled ▸ Nat.div_mul_le_self _ _
  rw [hplaces, zpow_sub₀ (by norm_num), zpow_natCast, zpow_natCast, div_mul_eq_mul_div,
    div_le_iff₀ (by positivity)]
  exact_mod_cast hscale

/-- On the grid of nine digits the point below a number is near enough to read back. -/
theorem nine_digits_read_back {x : Single} (hx : x.isFinite = true) (hpos : 0 < x.units) :
    x.ReadsBack (x.below (x.decimalPlaces - 9)) := by
  obtain ⟨hlow, hhigh⟩ := x.below_value (x.decimalPlaces - 9)
  have hfirst := first_digit hpos
  have hgrid : (10 : ℚ) ^ (x.decimalPlaces - 1) = 10 ^ (x.decimalPlaces - 9) * 10 ^ 8 := by
    rw [← zpow_natCast, ← zpow_add₀ (by norm_num)]
    congr 1
    push_cast
    ring
  have hunits : (x.units : ℚ) < 2 ^ 24 * 2 ^ (x.exponent - 1) := by
    have := Nat.mul_lt_mul_of_pos_right x.significand_lt (Nat.two_pow_pos (x.exponent - 1))
    rw [← x.units_eq] at this
    exact_mod_cast this
  rw [hgrid] at hfirst
  have hstep : (0 : ℚ) < 2 ^ (x.exponent - 1) := by positivity
  apply reads_back_of_near hx <;> linarith

theorem neighbour_reads_back {x : Single} {exponent : Int} {d : Decimal}
    (h : x.neighbour? exponent = some d) : x.ReadsBack d := by
  unfold neighbour? at h
  dsimp only at h
  split at h
  · rename_i hbelow
    split at h
    · rename_i habove
      exact Option.some.inj h ▸ habove.1
    · exact Option.some.inj h ▸ hbelow
  · split at h
    · rename_i habove
      exact Option.some.inj h ▸ habove
    · simp at h

/-- A grid on which the point below reads back does not let the search pass. -/
theorem neighbour_is_some {x : Single} {exponent : Int} (h : x.ReadsBack (x.below exponent)) :
    (x.neighbour? exponent).isSome = true := by
  have hbelow : x.ReadsBack
      ⟨(x.ratioAt exponent).1 / (x.ratioAt exponent).2, exponent⟩ := h
  unfold neighbour?
  dsimp only
  rw [if_pos hbelow]
  split <;> rfl

/-- The search stops at the first grid that does not let it pass. -/
theorem shortest_from_spec {x : Single} {digits more k : Nat} (hfrom : digits ≤ k)
    (hto : k < digits + more) (h : (x.neighbour? (x.decimalPlaces - k)).isSome = true) :
    ∃ n, digits ≤ n ∧ n ≤ k ∧
      x.neighbour? (x.decimalPlaces - n) = some (x.shortestFrom digits more) ∧
      ∀ j, digits ≤ j → j < n → x.neighbour? (x.decimalPlaces - j) = none := by
  induction more generalizing digits with
  | zero => omega
  | succ more ih =>
    unfold shortestFrom
    cases hn : x.neighbour? (x.decimalPlaces - digits) with
    | some d => exact ⟨digits, Nat.le_refl digits, hfrom, hn, fun j hj hlt => by omega⟩
    | none =>
      have hne : digits ≠ k := by
        rintro rfl
        simp [hn] at h
      have hnext : digits + 1 ≤ k := by omega
      obtain ⟨n, hmore, hle, hfound, hpassed⟩ := ih hnext (by omega)
      refine ⟨n, by omega, hle, hfound, fun j hj hlt => ?_⟩
      by_cases hfirst : j = digits
      · rw [hfirst, hn]
      · exact hpassed j (by omega) hlt

/-- At most nine digits are written, on the first grid with a neighbour that reads back. -/
theorem shortest_spec {x : Single} (hx : x.isFinite = true) (hpos : 0 < x.units) :
    ∃ n : Nat, 1 ≤ n ∧ n ≤ 9 ∧ x.neighbour? (x.decimalPlaces - n) = some x.shortest ∧
      ∀ j : Nat, 1 ≤ j → j < n → x.neighbour? (x.decimalPlaces - j) = none :=
  shortest_from_spec (k := 9) (by decide) (by decide)
    (neighbour_is_some (nine_digits_read_back hx hpos))

/-- The shortest decimal of a finite single other than zero reads back. -/
theorem shortest_reads_back {x : Single} (hx : x.isFinite = true) (hpos : 0 < x.units) :
    x.ReadsBack x.shortest := by
  obtain ⟨n, -, -, hfound, -⟩ := shortest_spec hx hpos
  exact neighbour_reads_back hfound

end Single

end Groundcover
