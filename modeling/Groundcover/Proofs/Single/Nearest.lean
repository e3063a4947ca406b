import Groundcover.Proofs.Single.ReadBack
import Groundcover.Single.Text

/-!
The single that a decimal reads as is the nearest one. Singles whose step is at least that of the
quotient lie on the grid on which the quotient is rounded; all others lie below the binade of the
quotient, whose power of two is on the grid and is closer.
-/

namespace Groundcover

def distance (a b : Nat) : Nat := ((a : Int) - b).natAbs

/-- No natural number is closer to a quotient than the rounded one, and none as close unless that is
even. -/
theorem round_half_even_nearest (num : Nat) {den : Nat} (h : 0 < den) (m : Nat) :
    distance num (roundHalfEven num den * den) ≤ distance num (m * den) ∧
      (distance num (m * den) = distance num (roundHalfEven num den * den) →
        m = roundHalfEven num den ∨ roundHalfEven num den % 2 = 0) := by
  obtain ⟨hlow, hhigh, htie⟩ := round_half_even_spec num h
  generalize roundHalfEven num den = n at hlow hhigh htie
  unfold distance
  rcases Nat.lt_trichotomy m n with hm | rfl | hm
  · have hgap := mul_add_le_mul_of_lt hm den
    omega
  · exact ⟨Nat.le_refl _, fun _ => .inl rfl⟩
  · have hgap := mul_add_le_mul_of_lt hm den
    omega

/-- A significand with its step: a quotient is rounded to one of 24 bits, of which the highest is
set unless the step is the least. -/
theorem round_half_even_significand {num den k : Nat} (hden : 0 < den)
    (hlow : k = 0 ∨ 2 ^ (k + 23) ≤ num / den) (hhigh : num / den < 2 ^ (k + 24)) :
    roundHalfEven num (den * 2 ^ k) ≤ 2 ^ 24 ∧
      (k = 0 ∨ 2 ^ 23 ≤ roundHalfEven num (den * 2 ^ k)) := by
  have hstep : 0 < den * 2 ^ k := Nat.mul_pos hden (Nat.two_pow_pos k)
  obtain ⟨hbelow, habove, -⟩ := round_half_even_spec num hstep
  have hshape (c : Nat) : 2 ^ (k + c) * den = 2 ^ c * (den * 2 ^ k) := by ring
  rw [Nat.div_lt_iff_lt_mul hden, hshape] at hhigh
  rw [Nat.le_div_iff_mul_le hden, hshape] at hlow
  generalize roundHalfEven num (den * 2 ^ k) = n at hbelow habove
  generalize den * 2 ^ k = X at hstep hbelow habove hhigh hlow
  constructor
  · by_contra hbig
    have hgap := mul_add_le_mul_of_lt (Nat.not_le.mp hbig) X
    omega
  · refine hlow.imp_right fun hlow => ?_
    by_contra hsmall
    have hgap := mul_add_le_mul_of_lt (Nat.not_le.mp hsmall) X
    omega

namespace Single

theorem rank_of_rank (negative : Bool) {r : Nat} (h : r < signBit) :
    (ofRank negative r).rank = r := by
  unfold signBit at h
  cases negative <;> simp [ofRank, rank, signBit] <;> omega

/-- A rank made of a step and a significand belongs to the number that they make. -/
theorem units_of_rank (negative : Bool) {n k : Nat} (hn : n ≤ 2 ^ 24) (hk : k = 0 ∨ 2 ^ 23 ≤ n)
    (htop : k * hiddenBit + n < topRank) :
    (ofRank negative (k * hiddenBit + n)).units = n * 2 ^ k := by
  have hrank : (ofRank negative (k * hiddenBit + n)).rank = k * hiddenBit + n :=
    rank_of_rank negative (Nat.lt_trans htop (by decide))
  have hdiv := Nat.div_add_mod' (k * hiddenBit + n) hiddenBit
  have hmod := Nat.mod_lt (k * hiddenBit + n) (show 0 < hiddenBit by decide)
  rw [units_eq, significand, exponent, fraction, hrank]
  generalize (k * hiddenBit + n) / hiddenBit = e at hdiv
  generalize (k * hiddenBit + n) % hiddenBit = f at hdiv hmod
  unfold hiddenBit at *
  split
  · rename_i he
    subst he
    obtain rfl : k = 0 := by omega
    obtain rfl : f = n := by omega
    rfl
  · rename_i he
    by_cases hcarry : n = 2 ^ 24
    · -- the significand carries into the exponent
      obtain rfl : f = 0 := by omega
      obtain rfl : e = k + 2 := by omega
      rw [hcarry, show k + 2 - 1 = k + 1 by omega, Nat.pow_succ]
      omega
    · obtain rfl : e = k + 1 := by omega
      obtain rfl : n = 0x800000 + f := by omega
      rfl

/-- Singles lie on the grid of a step or below its binade. -/
theorem units_on_grid (x : Single) (k : Nat) :
    (∃ m, x.units = m * 2 ^ k) ∨ k ≠ 0 ∧ x.units < 2 ^ (k + 23) := by
  rw [units_eq]
  by_cases hk : k ≤ x.exponent - 1
  · obtain ⟨j, hj⟩ := Nat.exists_eq_add_of_le hk
    exact .inl ⟨x.significand * 2 ^ j, by rw [hj, Nat.pow_add, Nat.mul_comm (2 ^ k), Nat.mul_assoc]⟩
  · refine .inr ⟨by omega, ?_⟩
    have hsig := x.significand_lt
    calc x.significand * 2 ^ (x.exponent - 1)
        < 2 ^ 24 * 2 ^ (x.exponent - 1) := Nat.mul_lt_mul_of_pos_right hsig (Nat.two_pow_pos _)
      _ = 2 ^ (x.exponent - 1 + 24) := by rw [Nat.pow_add, Nat.mul_comm]
      _ ≤ 2 ^ (k + 23) := Nat.pow_le_pow_right (by decide) (by omega)

end Single

/-- A quotient lies in the binade at whose step it is rounded. -/
theorem binade_of_quotient (q : Nat) :
    (q.log2 - 23 = 0 ∨ 2 ^ (q.log2 - 23 + 23) ≤ q) ∧ q < 2 ^ (q.log2 - 23 + 24) := by
  have hhigh : q < 2 ^ (q.log2 + 1) := Nat.lt_log2_self
  constructor
  · by_cases hk : q.log2 ≤ 23
    · exact .inl (by omega)
    · right
      rw [show q.log2 - 23 + 23 = q.log2 by omega]
      apply Nat.log2_self_le
      rintro rfl
      exact hk (by decide)
  · exact Nat.lt_of_lt_of_le hhigh (Nat.pow_le_pow_right (by decide) (by omega))

/-- A ratio is rounded at the step of the binade that its quotient lies in. -/
theorem nearest_rank_step (num den : Nat) : ∃ k,
    (k = 0 ∨ 2 ^ (k + 23) ≤ num / den) ∧ num / den < 2 ^ (k + 24) ∧
      nearestRank num den =
        min (k * Single.hiddenBit + roundHalfEven num (den * 2 ^ k)) Single.topRank := by
  obtain ⟨hlow, hhigh⟩ := binade_of_quotient (num / den)
  exact ⟨(num / den).log2 - 23, hlow, hhigh, rfl⟩

theorem nearest_rank_parts {num den : Nat} (hden : 0 < den)
    (htop : nearestRank num den < Single.topRank) : ∃ k,
    (k = 0 ∨ 2 ^ (k + 23) ≤ num / den) ∧
      nearestRank num den = k * Single.hiddenBit + roundHalfEven num (den * 2 ^ k) ∧
      ∀ negative, (Single.ofRank negative (nearestRank num den)).units =
        roundHalfEven num (den * 2 ^ k) * 2 ^ k := by
  obtain ⟨k, hlow, hhigh, hrank⟩ := nearest_rank_step num den
  obtain ⟨hsmall, hnormal⟩ := round_half_even_significand hden hlow hhigh
  have hparts : nearestRank num den =
      k * Single.hiddenBit + roundHalfEven num (den * 2 ^ k) := by omega
  refine ⟨k, hlow, hparts, fun negative => ?_⟩
  rw [hparts] at htop ⊢
  exact Single.units_of_rank negative hsmall hnormal htop

/-- No single is closer to a ratio of units than the one with the nearest rank, and a different
number is as close only if that rank is even. -/
theorem nearest_rank_nearest {num den : Nat} (hden : 0 < den)
    (htop : nearestRank num den < Single.topRank) (negative : Bool) (y : Single) :
    distance num ((Single.ofRank negative (nearestRank num den)).units * den) ≤
        distance num (y.units * den) ∧
      (distance num (y.units * den) =
          distance num ((Single.ofRank negative (nearestRank num den)).units * den) →
        y.units = (Single.ofRank negative (nearestRank num den)).units ∨
          nearestRank num den % 2 = 0) := by
  obtain ⟨k, hlow, hrank, hunits⟩ := nearest_rank_parts hden htop
  have hgrid (m : Nat) : m * 2 ^ k * den = m * (den * 2 ^ k) := by ring
  have heven : nearestRank num den % 2 = roundHalfEven num (den * 2 ^ k) % 2 := by
    rw [hrank, Single.hiddenBit]
    omega
  have hnearest := round_half_even_nearest num (Nat.mul_pos hden (Nat.two_pow_pos k))
  rw [hunits negative, hgrid, heven]
  generalize roundHalfEven num (den * 2 ^ k) = n at hnearest
  rcases y.units_on_grid k with ⟨m, hm⟩ | ⟨hk, hbelow⟩
  · rw [hm, hgrid]
    refine ⟨(hnearest m).1, fun h => ((hnearest m).2 h).imp_left fun hmn => by rw [hmn]⟩
  · -- the power of two at the foot of the binade is closer than what lies below
    have hfoot := (hnearest (2 ^ 23)).1
    have hbinade := (Nat.le_div_iff_mul_le hden).mp (hlow.resolve_left hk)
    have hless := Nat.mul_lt_mul_of_pos_right hbelow hden
    rw [← hgrid (2 ^ 23), ← Nat.pow_add, Nat.add_comm 23 k] at hfoot
    have hcloser : distance num (2 ^ (k + 23) * den) < distance num (y.units * den) := by
      unfold distance
      omega
    exact ⟨by omega, fun h => absurd h (by omega)⟩

/-- A quotient of at most 24 bits rounds to the next power of two from the middle below it on. -/
theorem round_half_even_full {num den : Nat} (hden : 0 < den)
    (hsmall : roundHalfEven num (2 * den) ≤ 2 ^ 24) :
    roundHalfEven num (2 * den) = 2 ^ 24 ↔ (2 ^ 25 - 1) * den ≤ num := by
  obtain ⟨hbelow, habove, htie⟩ := round_half_even_spec num (show 0 < 2 * den by omega)
  generalize roundHalfEven num (2 * den) = n at hsmall hbelow habove htie
  rw [Nat.mul_left_comm n 2] at hbelow habove htie
  constructor
  · rintro rfl
    omega
  · intro hnum
    by_contra hne
    obtain rfl | hless : n = 2 ^ 24 - 1 ∨ n ≤ 2 ^ 24 - 2 := by omega
    · -- the middle itself is a tie, and the lower neighbour is odd
      have hodd := htie (.inl (by omega))
      exact absurd hodd (by decide)
    · have hgap := Nat.mul_le_mul_right den hless
      omega

/-- A ratio rounds to infinity from the middle between the largest single and the next power of two
on. -/
theorem nearest_rank_top {num den : Nat} (hden : 0 < den) :
    nearestRank num den = Single.topRank ↔ (2 ^ 25 - 1) * 2 ^ 252 * den ≤ num := by
  obtain ⟨k, hlow, hhigh, hrank⟩ := nearest_rank_step num den
  obtain ⟨hsmall, hnormal⟩ := round_half_even_significand hden hlow hhigh
  rw [Nat.div_lt_iff_lt_mul hden] at hhigh
  rw [Nat.le_div_iff_mul_le hden] at hlow
  rw [Nat.mul_assoc]
  unfold Single.topRank Single.hiddenBit at *
  rcases Nat.lt_trichotomy k 253 with hk | rfl | hk
  · -- too small for both
    have hpower : 2 ^ k ≤ 2 ^ 252 := Nat.pow_le_pow_right (by decide) (by omega)
    have hbound : 2 ^ (k + 24) * den ≤ 2 ^ 24 * (2 ^ 252 * den) := by
      rw [Nat.add_comm, Nat.pow_add, Nat.mul_assoc]
      exact Nat.mul_le_mul_left _ (Nat.mul_le_mul_right den hpower)
    generalize 2 ^ 252 * den = D at hbound
    omega
  · -- the last binade, in which the significand decides
    have hstep : den * 2 ^ 253 = 2 * (2 ^ 252 * den) := by
      rw [Nat.pow_succ]
      ring
    rw [hstep] at hsmall hrank
    have hfull := round_half_even_full (Nat.mul_pos (Nat.two_pow_pos 252) hden) hsmall
    rw [← hfull]
    omega
  · -- too large for both
    have hpower : 2 ^ 252 ≤ 2 ^ (k - 2) := Nat.pow_le_pow_right (by decide) (by omega)
    have hbound : 2 ^ 25 * (2 ^ 252 * den) ≤ 2 ^ (k + 23) * den := by
      rw [show k + 23 = 25 + (k - 2) by omega, Nat.pow_add, Nat.mul_assoc]
      exact Nat.mul_le_mul_left _ (Nat.mul_le_mul_right den hpower)
    have hbinade := hlow.resolve_left (by omega)
    generalize 2 ^ 252 * den = D at hbound
    omega

namespace Single

/-- The number that a finite single denotes, without its sign. -/
def magnitude (x : Single) : ℚ := x.units / 2 ^ 149

theorem distance_magnitude (d : Decimal) (x : Single) :
    |d.value - x.magnitude| * (2 ^ 149 * d.ratio.2) =
      distance d.ratio.1 (x.units * d.ratio.2) := by
  have hden : (0 : ℚ) < d.ratio.2 := by exact_mod_cast d.ratio_pos
  rw [distance, Nat.cast_natAbs, ← abs_of_pos (show (0 : ℚ) < 2 ^ 149 * d.ratio.2 by positivity),
    ← abs_mul]
  push_cast
  rw [d.ratio_value, magnitude]
  congr 1
  field_simp

theorem of_decimal_rank (negative : Bool) (d : Decimal) : (ofDecimal negative d).rank = d.rank := by
  have htop : d.rank ≤ topRank := by
    rw [d.rank_eq]
    exact Nat.min_le_right ..
  exact rank_of_rank negative (Nat.lt_of_le_of_lt htop (by decide))

theorem is_finite_of_rank {x : Single} (h : x.rank < topRank) : x.isFinite = true := by
  unfold isFinite exponent
  exact decide_eq_true (Nat.div_lt_of_lt_mul (by rwa [Nat.mul_comm]))

/-- The middle between the largest single and the next power of two, in units. -/
theorem top_rank_iff (d : Decimal) : d.rank = topRank ↔ 2 ^ 128 - 2 ^ 103 ≤ d.value := by
  have hden : (0 : ℚ) < d.ratio.2 := by exact_mod_cast d.ratio_pos
  have hmiddle : (((2 ^ 25 - 1) * 2 ^ 252 * d.ratio.2 : ℕ) : ℚ) =
      (2 ^ 128 - 2 ^ 103) * 2 ^ 149 * d.ratio.2 := by
    rw [Nat.cast_mul]
    norm_num
  rw [d.rank_eq, nearest_rank_top d.ratio_pos, ← Nat.cast_le (α := ℚ), hmiddle, d.ratio_value,
    mul_le_mul_iff_left₀ hden, mul_le_mul_iff_left₀ (by positivity)]

/-- A decimal below the middle between the largest single and the next power of two reads as a
finite single, and as the nearest of all, where of two nearest ones it is the even one. -/
theorem of_decimal_nearest (negative : Bool) {d : Decimal} (h : d.value < 2 ^ 128 - 2 ^ 103) :
    (ofDecimal negative d).isFinite = true ∧ ∀ y : Single,
      |d.value - (ofDecimal negative d).magnitude| ≤ |d.value - y.magnitude| ∧
        (|d.value - y.magnitude| = |d.value - (ofDecimal negative d).magnitude| →
          y.magnitude = (ofDecimal negative d).magnitude ∨
            (ofDecimal negative d).rank % 2 = 0) := by
  have hne : d.rank ≠ topRank := fun htop => absurd ((top_rank_iff d).mp htop) (not_le.mpr h)
  have htop : nearestRank d.ratio.1 d.ratio.2 < topRank := by
    have hle : nearestRank d.ratio.1 d.ratio.2 ≤ topRank := Nat.min_le_right ..
    rw [d.rank_eq] at hne
    omega
  have hscale : (0 : ℚ) < 2 ^ 149 * d.ratio.2 := by
    have : (0 : ℚ) < d.ratio.2 := by exact_mod_cast d.ratio_pos
    positivity
  refine ⟨is_finite_of_rank (by rwa [of_decimal_rank, d.rank_eq]), fun y => ?_⟩
  obtain ⟨hle, htie⟩ := nearest_rank_nearest d.ratio_pos htop negative y
  rw [← d.rank_eq] at hle htie
  constructor
  · rw [← mul_le_mul_iff_left₀ hscale, distance_magnitude, distance_magnitude]
    exact_mod_cast hle
  · intro heq
    rw [← mul_left_inj' hscale.ne', distance_magnitude, distance_magnitude] at heq
    refine (htie (by exact_mod_cast heq)).imp (fun hunits => ?_) fun heven => ?_
    · rw [magnitude, hunits]
      rfl
    · rwa [of_decimal_rank]

end Single

end Groundcover
