import Groundcover.Single.Decimal
import Mathlib.Tactic.Linarith
import Mathlib.Tactic.Ring

/-!
Rounding to singles. What is rounded matters only as a ratio, and a ratio closer to a finite single
than a quarter of the step above it rounds to that single. A quarter is what is left below a power
of two, where the step halves.
-/

namespace Groundcover

/-- Different multiples of a number are at least the number apart. -/
theorem mul_add_le_mul_of_lt {m n : Nat} (h : m < n) (d : Nat) : m * d + d ≤ n * d := by
  rw [← Nat.succ_mul]
  exact Nat.mul_le_mul_right d h

/-- A rounded quotient is at most a half away, and even when it is exactly a half away. -/
theorem round_half_even_spec (num : Nat) {den : Nat} (h : 0 < den) :
    2 * num ≤ 2 * (roundHalfEven num den * den) + den ∧
      2 * (roundHalfEven num den * den) ≤ 2 * num + den ∧
      (2 * num = 2 * (roundHalfEven num den * den) + den ∨
        2 * (roundHalfEven num den * den) = 2 * num + den → roundHalfEven num den % 2 = 0) := by
  have hdiv : num / den * den + num % den = num := Nat.div_add_mod' num den
  have hmod : num % den < den := Nat.mod_lt num h
  unfold roundHalfEven
  generalize num / den = q at hdiv
  generalize num % den = r at hdiv hmod
  dsimp only
  split
  · omega
  · split
    · rw [Nat.add_mul, Nat.one_mul]
      omega
    · rcases Nat.mod_two_eq_zero_or_one q with hq | hq
      · rw [hq, Nat.add_zero]
        omega
      · rw [hq, Nat.add_mul, Nat.one_mul]
        omega

/-- What lies within less than a half of a natural number rounds to it. -/
theorem round_half_even_of_near {num den n : Nat} (hlow : 2 * (n * den) < 2 * num + den)
    (hhigh : 2 * num < 2 * (n * den) + den) : roundHalfEven num den = n := by
  have hden : 0 < den := by omega
  obtain ⟨hbelow, habove, -⟩ := round_half_even_spec num hden
  rcases Nat.lt_trichotomy (roundHalfEven num den) n with hlt | heq | hgt
  · have hgap := mul_add_le_mul_of_lt hlt den
    omega
  · exact heq
  · have hgap := mul_add_le_mul_of_lt hgt den
    omega

theorem round_half_even_mul (num den : Nat) {c : Nat} (hc : 0 < c) :
    roundHalfEven (num * c) (den * c) = roundHalfEven num den := by
  unfold roundHalfEven
  rw [Nat.mul_div_mul_right num den hc, Nat.mul_mod_mul_right]
  have hlt : ∀ a b : Nat, 2 * (a * c) < b * c ↔ 2 * a < b := by
    intro a b
    rw [← Nat.mul_assoc]
    exact Nat.mul_lt_mul_right hc
  have hgt : ∀ a b : Nat, b * c < 2 * (a * c) ↔ b < 2 * a := by
    intro a b
    rw [← Nat.mul_assoc]
    exact Nat.mul_lt_mul_right hc
  simp only [hlt, hgt]

theorem nearest_rank_mul (num den : Nat) {c : Nat} (hc : 0 < c) :
    nearestRank (num * c) (den * c) = nearestRank num den := by
  simp only [nearestRank, Nat.mul_div_mul_right num den hc, Nat.mul_right_comm den c,
    round_half_even_mul num _ hc]

/-- Equal ratios round alike. -/
theorem nearest_rank_congr {a b c d : Nat} (hb : 0 < b) (hd : 0 < d) (h : a * d = c * b) :
    nearestRank a b = nearestRank c d := by
  rw [← nearest_rank_mul a b hd, h, Nat.mul_comm b d, nearest_rank_mul c d hb]

/-- The step at which a quotient in the binade of `2 ^ k` is rounded. -/
theorem step_of_binade {q k : Nat} (hlow : k = 0 ∨ 2 ^ (k + 23) ≤ q) (hhigh : q < 2 ^ (k + 24)) :
    q.log2 - 23 = k := by
  by_cases hq : q = 0
  · subst hq
    rcases hlow with rfl | hlow
    · rfl
    · exact absurd hlow (Nat.not_le.mpr (Nat.two_pow_pos _))
  · have htop : q.log2 < k + 24 := (Nat.log2_lt hq).mpr hhigh
    rcases hlow with rfl | hlow
    · omega
    · have : k + 23 ≤ q.log2 := (Nat.le_log2 hq).mpr hlow
      omega

/-- A ratio less than a quarter of a step away from a significand rounds to it. -/
theorem nearest_rank_of_near {num den sig k : Nat} (hsig : sig < 2 ^ 24)
    (hnormal : k = 0 ∨ 2 ^ 23 ≤ sig) (hlow : 4 * (sig * (2 ^ k * den)) < 4 * num + 2 ^ k * den)
    (hhigh : 4 * num < 4 * (sig * (2 ^ k * den)) + 2 ^ k * den) :
    nearestRank num den = min (k * Single.hiddenBit + sig) Single.topRank := by
  have hstep : 0 < 2 ^ k * den := by omega
  have hden : 0 < den := Nat.pos_of_mul_pos_left hstep
  have hbelow : num / den < 2 ^ (k + 24) := by
    rw [Nat.div_lt_iff_lt_mul hden, Nat.add_comm k 24, Nat.pow_add, Nat.mul_assoc]
    have hgap := mul_add_le_mul_of_lt hsig (2 ^ k * den)
    omega
  by_cases hbinade : k = 0 ∨ 2 ^ (k + 23) ≤ num / den
  · have hround : roundHalfEven num (den * Nat.pow 2 k) = sig := by
      apply round_half_even_of_near <;> rw [Nat.pow_eq, Nat.mul_comm den] <;> omega
    simp only [nearestRank, step_of_binade hbinade hbelow, hround]
  · -- below the binade there is only its power of two, which the lower binade rounds up to
    obtain ⟨hk, hless⟩ : k ≠ 0 ∧ num / den < 2 ^ (k + 23) := by omega
    obtain ⟨j, rfl⟩ := Nat.exists_eq_add_of_le' (Nat.pos_of_ne_zero hk)
    rw [Nat.div_lt_iff_lt_mul hden, show j + 1 + 23 = 24 + j by omega, Nat.pow_add,
      Nat.mul_assoc] at hless
    rw [Nat.pow_succ', Nat.mul_assoc] at hlow hhigh
    generalize hX : 2 ^ j * den = X at hless hlow hhigh
    have hpower : sig = 2 ^ 23 := by
      by_contra hne
      have hmore : 2 ^ 23 < sig := by omega
      have hgap := mul_add_le_mul_of_lt hmore (2 * X)
      omega
    subst hpower
    have hlower : j = 0 ∨ 2 ^ (j + 23) ≤ num / den := by
      right
      rw [Nat.le_div_iff_mul_le hden, Nat.add_comm j 23, Nat.pow_add, Nat.mul_assoc, hX]
      omega
    have hhigher : num / den < 2 ^ (j + 24) := by
      rw [Nat.div_lt_iff_lt_mul hden, Nat.add_comm j 24, Nat.pow_add, Nat.mul_assoc, hX]
      exact hless
    have hround : roundHalfEven num (den * Nat.pow 2 j) = 2 ^ 24 := by
      apply round_half_even_of_near <;> rw [Nat.pow_eq, Nat.mul_comm den, hX] <;> omega
    have hcarry : j * Single.hiddenBit + 2 ^ 24 = (j + 1) * Single.hiddenBit + 2 ^ 23 := by
      rw [Nat.add_mul, Nat.add_assoc]
      norm_num [Single.hiddenBit]
    simp only [nearestRank, step_of_binade hlower hhigher, hround, hcarry]

namespace Single

theorem significand_lt (x : Single) : x.significand < 2 ^ 24 := by
  have := Nat.mod_lt x.rank (show 0 < hiddenBit by decide)
  unfold significand fraction
  simp only [hiddenBit] at this ⊢
  split <;> omega

/-- The rank counts singles: a step in the exponent is worth as many as there are fractions. -/
theorem rank_eq (x : Single) : x.rank = (x.exponent - 1) * hiddenBit + x.significand := by
  have hdiv : x.exponent * hiddenBit + x.fraction = x.rank := Nat.div_add_mod' x.rank hiddenBit
  by_cases he : x.exponent = 0
  · simpa [significand, he] using hdiv.symm
  · rw [significand, if_neg he, ← hdiv, ← Nat.add_assoc, ← Nat.succ_mul,
      show (x.exponent - 1).succ = x.exponent by omega]

theorem rank_lt_top {x : Single} (hx : x.isFinite = true) : x.rank < topRank := by
  have := of_decide_eq_true hx
  unfold exponent at this
  unfold topRank
  simp only [hiddenBit] at this ⊢
  omega

theorem units_eq (x : Single) : x.units = x.significand * 2 ^ (x.exponent - 1) := rfl

end Single

end Groundcover
