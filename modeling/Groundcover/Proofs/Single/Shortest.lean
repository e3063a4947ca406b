import Mathlib.Data.List.TakeWhile
import Groundcover.Proofs.Single.Literal
import Groundcover.Proofs.Single.Nearest

/-!
The digits of literals are as few as can be. What reads back as a single is an interval around it,
since rounding keeps the order. A decimal of so many digits lies on the grid of that many places, or
a power of ten on that grid is nearer; so the search finds a neighbour where there is any decimal.
-/

namespace Groundcover

theorem round_half_even_mono {a b den : Nat} (hden : 0 < den) (h : a ≤ b) :
    roundHalfEven a den ≤ roundHalfEven b den := by
  obtain ⟨-, hover, -⟩ := round_half_even_spec a hden
  obtain ⟨hunder, -, -⟩ := round_half_even_spec b hden
  rcases Nat.eq_or_lt_of_le h with rfl | hless
  · exact Nat.le_refl _
  · by_contra hgreater
    have hgap := mul_add_le_mul_of_lt (Nat.not_le.mp hgreater) den
    omega

theorem nearest_rank_mono {a b den : Nat} (hden : 0 < den) (h : a ≤ b) :
    nearestRank a den ≤ nearestRank b den := by
  have hquotient : a / den ≤ b / den := Nat.div_le_div_right h
  obtain ⟨k, hlow, hhigh, hrank⟩ := nearest_rank_step a den
  obtain ⟨j, hlow', hhigh', hrank'⟩ := nearest_rank_step b den
  obtain ⟨hsmall, -⟩ := round_half_even_significand hden hlow hhigh
  obtain ⟨-, hnormal⟩ := round_half_even_significand hden hlow' hhigh'
  rw [hrank, hrank']
  have hsteps : k ≤ j := by
    by_contra hgreater
    have hpower : 2 ^ (j + 24) ≤ 2 ^ (k + 23) := Nat.pow_le_pow_right (by decide) (by omega)
    omega
  apply min_le_min_right
  rcases Nat.eq_or_lt_of_le hsteps with rfl | hless
  · exact Nat.add_le_add_left (round_half_even_mono (Nat.mul_pos hden (Nat.two_pow_pos k)) h) _
  · -- a full significand carries into the next binade, which the other one has reached
    have hbinades := Nat.mul_le_mul_right Single.hiddenBit (Nat.succ_le_of_lt hless)
    have hfull := hnormal.resolve_left (by omega)
    rw [Nat.succ_mul] at hbinades
    unfold Single.hiddenBit at *
    omega

namespace Decimal

theorem rank_mono {d e : Decimal} (h : d.value ≤ e.value) : d.rank ≤ e.rank := by
  rw [rank_eq, rank_eq, ← nearest_rank_mul d.ratio.1 d.ratio.2 e.ratio_pos,
    ← nearest_rank_mul e.ratio.1 e.ratio.2 d.ratio_pos, Nat.mul_comm e.ratio.2]
  apply nearest_rank_mono (Nat.mul_pos d.ratio_pos e.ratio_pos)
  have hscale : (0 : ℚ) ≤ 2 ^ 149 * d.ratio.2 * e.ratio.2 := by positivity
  have hcross : (d.ratio.1 * e.ratio.2 : ℚ) ≤ e.ratio.1 * d.ratio.2 := by
    calc (d.ratio.1 * e.ratio.2 : ℚ) = d.value * (2 ^ 149 * d.ratio.2 * e.ratio.2) := by
          rw [d.ratio_value]
          ring
      _ ≤ e.value * (2 ^ 149 * d.ratio.2 * e.ratio.2) := mul_le_mul_of_nonneg_right h hscale
      _ = e.ratio.1 * d.ratio.2 := by
          rw [e.ratio_value]
          ring
  exact_mod_cast hcross

/-- Zeros behind the digits move into the exponent. -/
theorem value_scaled (c j : Nat) (exponent : Int) :
    (⟨c * 10 ^ j, exponent⟩ : Decimal).value = (⟨c, exponent + j⟩ : Decimal).value := by
  rw [value, value, zpow_add₀ (by norm_num), zpow_natCast]
  push_cast
  ring

theorem value_of_power {d : Decimal} {n : Nat} (h : d.coefficient = 10 ^ n) :
    d.value = (⟨1, d.exponent + n⟩ : Decimal).value := by
  rw [← value_scaled, Nat.one_mul, ← h]

/-- A decimal past a power of ten has the digits that it takes to get there. -/
theorem exponent_of_digits {d : Decimal} {k : Nat} {p : Int} (hd : d.coefficient < 10 ^ k)
    (h : 10 ^ p < d.value) : p < k + d.exponent := by
  apply (zpow_lt_zpow_iff_right₀ (show (1 : ℚ) < 10 by norm_num)).mp
  calc (10 : ℚ) ^ p < d.coefficient * 10 ^ d.exponent := h
    _ ≤ 10 ^ k * 10 ^ d.exponent := by
      apply mul_le_mul_of_nonneg_right _ (by positivity)
      exact_mod_cast hd.le
    _ = 10 ^ (k + d.exponent) := by rw [zpow_add₀ (by norm_num), zpow_natCast]

theorem trimmed_length_le {d : Decimal} {n : Nat} (hn : 0 < n) (h : d.coefficient < 10 ^ n) :
    d.trimmed.1.length ≤ n := by
  obtain ⟨k, hdigits, -⟩ := d.trimmed_spec
  have hlength := (Nat.length_toDigits_le_iff (by decide) hn).mpr h
  rw [hdigits, List.length_append] at hlength
  omega

end Decimal

namespace Single

variable {x : Single} {d e : Decimal}

/-- A number as a decimal with all of its digits. -/
def exact (x : Single) : Decimal := ⟨x.units * 5 ^ 149, -149⟩

theorem exact_value (x : Single) : x.exact.value = x.magnitude := by
  have hten : (10 : ℚ) ^ (-149 : ℤ) * 5 ^ 149 = (2 ^ 149)⁻¹ := by norm_num
  rw [exact, Decimal.value, magnitude, div_eq_mul_inv, ← hten]
  push_cast
  ring

theorem exact_reads_back (hx : x.isFinite = true) : x.ReadsBack x.exact := by
  have hunits : x.exact.value * 2 ^ 149 = x.units := by
    rw [exact_value, magnitude]
    field_simp
  have hstep : (0 : ℚ) < 2 ^ (x.exponent - 1) := by positivity
  apply reads_back_of_near hx <;> linarith

/-- A decimal is on the way from a number to another decimal. -/
def Between (x : Single) (e d : Decimal) : Prop :=
  x.magnitude ≤ e.value ∧ e.value ≤ d.value ∨ d.value ≤ e.value ∧ e.value ≤ x.magnitude

theorem Between.reads_back (h : x.Between e d) (hx : x.isFinite = true) (hd : x.ReadsBack d) :
    x.ReadsBack e := by
  have hexact := exact_reads_back hx
  unfold Between at h
  rw [← exact_value] at h
  unfold ReadsBack at *
  rcases h with ⟨hlow, hhigh⟩ | ⟨hlow, hhigh⟩
  all_goals
    have := Decimal.rank_mono hlow
    have := Decimal.rank_mono hhigh
    omega

theorem Between.nearer (h : x.Between e d) :
    |e.value - x.magnitude| ≤ |d.value - x.magnitude| := by
  rcases h with ⟨hlow, hhigh⟩ | ⟨hlow, hhigh⟩
  · rw [abs_of_nonneg (by linarith), abs_of_nonneg (by linarith)]
    linarith
  · rw [abs_of_nonpos (by linarith), abs_of_nonpos (by linarith)]
    linarith

theorem in_decade (hpos : 0 < x.units) :
    10 ^ (x.decimalPlaces - 1) ≤ x.magnitude ∧ x.magnitude < 10 ^ x.decimalPlaces := by
  constructor
  · have hfirst := first_digit hpos
    rw [magnitude, le_div_iff₀ (by positivity)]
    exact hfirst
  · generalize hscaled : x.units * 10 ^ 60 / 2 ^ 149 = scaled
    have hplaces : x.decimalPlaces = ((Nat.toDigits 10 scaled).length : ℤ) - 60 := by
      rw [← hscaled]
      rfl
    have hbelow : scaled < 10 ^ (Nat.toDigits 10 scaled).length :=
      (Nat.length_toDigits_le_iff (by decide) Nat.length_toDigits_pos).mp (Nat.le_refl _)
    have hunits : x.units * 10 ^ 60 < 10 ^ (Nat.toDigits 10 scaled).length * 2 ^ 149 := by
      rw [← Nat.div_lt_iff_lt_mul (Nat.two_pow_pos 149), hscaled]
      exact hbelow
    have hcast : (x.units : ℚ) * 10 ^ 60 < 10 ^ (Nat.toDigits 10 scaled).length * 2 ^ 149 := by
      exact_mod_cast hunits
    rw [magnitude, hplaces, div_lt_iff₀ (by positivity), zpow_sub₀ (by norm_num), zpow_natCast,
      div_mul_eq_mul_div, lt_div_iff₀ (by positivity)]
    exact_mod_cast hcast

/-- From a number towards any decimal of so many digits, one is on the grid of that many places: the
decimal itself, or the power of ten at the end of the decade. -/
theorem between_on_grid (hpos : 0 < x.units) {k : Nat} (hk : 1 ≤ k) (hd : d.coefficient < 10 ^ k) :
    ∃ m : Nat, x.Between ⟨m, x.decimalPlaces - k⟩ d := by
  obtain ⟨hlow, hhigh⟩ := in_decade hpos
  generalize x.decimalPlaces = p at hlow hhigh ⊢
  have hpower (j : Nat) : (⟨10 ^ j, p - k⟩ : Decimal).value = 10 ^ (p - k + j) := by
    rw [← Nat.one_mul (10 ^ j), Decimal.value_scaled]
    simp [Decimal.value]
  by_cases habove : 10 ^ p ≤ d.value
  · refine ⟨10 ^ k, .inl ?_⟩
    rw [hpower, sub_add_cancel]
    exact ⟨hhigh.le, habove⟩
  · by_cases hbelow : d.value ≤ 10 ^ (p - 1)
    · refine ⟨10 ^ (k - 1), .inr ?_⟩
      rw [hpower, show p - k + ((k - 1 : Nat) : ℤ) = p - 1 by omega]
      exact ⟨hbelow, hlow⟩
    · have hexponent := Decimal.exponent_of_digits hd (not_le.mp hbelow)
      obtain ⟨j, hj⟩ := Int.eq_ofNat_of_zero_le (show 0 ≤ d.exponent - (p - k) by omega)
      have hsame : (⟨d.coefficient * 10 ^ j, p - k⟩ : Decimal).value = d.value := by
        rw [Decimal.value_scaled, show p - k + (j : ℤ) = d.exponent by omega]
      refine ⟨d.coefficient * 10 ^ j, ?_⟩
      rw [Between, hsame]
      rcases le_total x.magnitude d.value with h | h
      · exact .inl ⟨h, le_refl _⟩
      · exact .inr ⟨le_refl _, h⟩

/-- The point of a grid above a number. -/
def above (x : Single) (exponent : Int) : Decimal :=
  ⟨(x.ratioAt exponent).1 / (x.ratioAt exponent).2 + 1, exponent⟩

theorem above_value (x : Single) (exponent : Int) :
    (x.above exponent).value = (x.below exponent).value + 10 ^ exponent := by
  simp only [above, below, Decimal.value]
  push_cast
  ring

theorem between_neighbours (x : Single) (exponent : Int) :
    (x.below exponent).value ≤ x.magnitude ∧ x.magnitude < (x.above exponent).value := by
  obtain ⟨hlow, hhigh⟩ := x.below_value exponent
  rw [above_value, magnitude]
  constructor
  · rwa [le_div_iff₀ (by positivity)]
  · rw [div_lt_iff₀ (by positivity), add_mul]
    exact hhigh

/-- A point of the grid has a neighbour of the number on its way there. -/
theorem neighbour_between (x : Single) (m : Nat) (exponent : Int) :
    x.Between (x.below exponent) ⟨m, exponent⟩ ∨ x.Between (x.above exponent) ⟨m, exponent⟩ := by
  obtain ⟨hlow, hhigh⟩ := x.between_neighbours exponent
  have hpower : (0 : ℚ) < 10 ^ exponent := by positivity
  rcases Nat.lt_or_ge ((x.ratioAt exponent).1 / (x.ratioAt exponent).2) m with hm | hm
  · refine .inr (.inl ⟨hhigh.le, ?_⟩)
    apply mul_le_mul_of_nonneg_right _ hpower.le
    exact_mod_cast hm
  · refine .inl (.inr ⟨?_, hlow⟩)
    apply mul_le_mul_of_nonneg_right _ hpower.le
    exact_mod_cast hm

/-- The search takes the upper neighbour from the middle between both on. -/
theorem above_is_nearer (x : Single) (exponent : Int) :
    (2 * ((x.ratioAt exponent).1 / (x.ratioAt exponent).2) + 1) * (x.ratioAt exponent).2 ≤
        2 * (x.ratioAt exponent).1 ↔
      |(x.above exponent).value - x.magnitude| ≤ |(x.below exponent).value - x.magnitude| := by
  obtain ⟨hlow, hhigh⟩ := x.between_neighbours exponent
  have hpower : (0 : ℚ) < 10 ^ exponent := by positivity
  have hden : (0 : ℚ) < (x.ratioAt exponent).2 := by exact_mod_cast x.ratio_at_pos exponent
  have hratio : ((x.ratioAt exponent).1 : ℚ) * 10 ^ exponent =
      x.magnitude * (x.ratioAt exponent).2 := by
    have h := x.ratio_at_value exponent
    rw [magnitude]
    field_simp
    linarith
  rw [abs_of_pos (by linarith), abs_of_nonpos (by linarith), above_value, below, Decimal.value]
  generalize (x.ratioAt exponent).1 = num at *
  generalize (x.ratioAt exponent).2 = den at *
  generalize num / den = n
  rw [← Nat.cast_le (α := ℚ), ← mul_le_mul_iff_left₀ hpower]
  have hmiddle : ((2 * n + 1) * den : ℕ) * (10 : ℚ) ^ exponent =
      (n * 10 ^ exponent + (n * 10 ^ exponent + 10 ^ exponent)) * den := by
    push_cast
    ring
  have htwice : ((2 * num : ℕ) : ℚ) * 10 ^ exponent = 2 * x.magnitude * den := by
    push_cast
    rw [mul_assoc, hratio, mul_assoc]
  rw [hmiddle, htwice, mul_le_mul_iff_left₀ hden]
  constructor <;> intro h <;> linarith

theorem neighbour_eq (x : Single) (exponent : Int) :
    x.neighbour? exponent =
      if x.ReadsBack (x.below exponent) then
        if x.ReadsBack (x.above exponent) ∧
            |(x.above exponent).value - x.magnitude| ≤ |(x.below exponent).value - x.magnitude| then
          some (x.above exponent) else some (x.below exponent)
      else if x.ReadsBack (x.above exponent) then some (x.above exponent) else none := by
  simp only [← x.above_is_nearer exponent]
  rfl

theorem neighbour_cases {exponent : Int} (h : x.neighbour? exponent = some e) :
    e = x.below exponent ∨ e = x.above exponent := by
  rw [neighbour_eq] at h
  split at h
  · split at h
    · exact .inr (Option.some.inj h).symm
    · exact .inl (Option.some.inj h).symm
  · split at h
    · exact .inr (Option.some.inj h).symm
    · cases h

/-- If a point of the grid reads back, a neighbour is found that is no farther away. -/
theorem neighbour_nearest (hx : x.isFinite = true) {m : Nat} {exponent : Int}
    (h : x.ReadsBack ⟨m, exponent⟩) : ∃ e, x.neighbour? exponent = some e ∧
      |e.value - x.magnitude| ≤ |(⟨m, exponent⟩ : Decimal).value - x.magnitude| := by
  have hbetween := x.neighbour_between m exponent
  rw [neighbour_eq]
  by_cases hbelow : x.ReadsBack (x.below exponent)
  · rw [if_pos hbelow]
    by_cases hnearer : x.ReadsBack (x.above exponent) ∧
        |(x.above exponent).value - x.magnitude| ≤ |(x.below exponent).value - x.magnitude|
    · rw [if_pos hnearer]
      refine ⟨_, rfl, ?_⟩
      rcases hbetween with hway | hway
      · exact hnearer.2.trans hway.nearer
      · exact hway.nearer
    · rw [if_neg hnearer]
      refine ⟨_, rfl, ?_⟩
      rcases hbetween with hway | hway
      · exact hway.nearer
      · have hfarther := not_le.mp fun hle => hnearer ⟨hway.reads_back hx h, hle⟩
        exact hfarther.le.trans hway.nearer
  · rw [if_neg hbelow]
    rcases hbetween with hway | hway
    · exact absurd (hway.reads_back hx h) hbelow
    · rw [if_pos (hway.reads_back hx h)]
      exact ⟨_, rfl, hway.nearer⟩

theorem below_coefficient_lt (hpos : 0 < x.units) (n : Nat) :
    (x.below (x.decimalPlaces - n)).coefficient < 10 ^ n := by
  have hpower : (0 : ℚ) < 10 ^ (x.decimalPlaces - n) := by positivity
  have hvalue : (x.below (x.decimalPlaces - n)).value < 10 ^ x.decimalPlaces :=
    lt_of_le_of_lt (x.between_neighbours _).1 (in_decade hpos).2
  rw [← sub_add_cancel x.decimalPlaces (n : ℤ), add_comm, zpow_add₀ (by norm_num), zpow_natCast,
    add_comm, sub_add_cancel] at hvalue
  exact_mod_cast lt_of_mul_lt_mul_right hvalue hpower.le

/-- No decimal with fewer digits reads back, and none with as many is nearer. -/
theorem shortest_is_shortest (hx : x.isFinite = true) (hne : x.rank ≠ 0) :
    ∃ n : Nat, 1 ≤ n ∧ x.shortest.coefficient ≤ 10 ^ n ∧ ∀ d, x.ReadsBack d →
      (∀ k, d.coefficient < 10 ^ k → n ≤ k) ∧
      (d.coefficient < 10 ^ n → |x.shortest.value - x.magnitude| ≤ |d.value - x.magnitude|) := by
  have hpos := units_pos hne
  obtain ⟨n, hn, -, hfound, hpassed⟩ := shortest_spec hx hpos
  refine ⟨n, hn, ?_, fun d hd => ⟨fun k hk => ?_, fun hk => ?_⟩⟩
  · have hbelow := below_coefficient_lt hpos n
    rcases neighbour_cases hfound with h | h
    · rw [h]
      exact hbelow.le
    · rw [h]
      exact hbelow
  · by_contra hfewer
    have hsome : 1 ≤ k := by
      by_contra hnone
      obtain rfl : k = 0 := by omega
      rw [ReadsBack, Decimal.rank, if_pos (Nat.lt_one_iff.mp hk)] at hd
      exact hne hd.symm
    obtain ⟨m, hway⟩ := between_on_grid hpos hsome hk
    obtain ⟨e, he, -⟩ := neighbour_nearest hx (hway.reads_back hx hd)
    rw [hpassed k hsome (by omega)] at he
    cases he
  · obtain ⟨m, hway⟩ := between_on_grid hpos hn hk
    obtain ⟨e, he, hnearest⟩ := neighbour_nearest hx (hway.reads_back hx hd)
    obtain rfl : x.shortest = e := Option.some.inj (hfound.symm.trans he)
    exact hnearest.trans hway.nearer

/-- What is written has no more digits than any decimal that reads back, and is the nearest with so
many. -/
theorem written_is_shortest (hx : x.isFinite = true) (hd : x.ReadsBack d) :
    (∀ k, d.coefficient < 10 ^ k → x.written.trimmed.1.length ≤ k) ∧
      (d.coefficient < 10 ^ x.written.trimmed.1.length →
        |x.written.value - x.magnitude| ≤ |d.value - x.magnitude|) := by
  unfold written
  by_cases hzero : x.rank = 0
  · rw [if_pos hzero]
    refine ⟨fun k _ => Nat.zero_le k, fun hk => ?_⟩
    have hnone : d.coefficient = 0 := Nat.lt_one_iff.mp hk
    simp [Decimal.value, hnone]
  · rw [if_neg hzero]
    obtain ⟨n, hn, hcoefficient, hleast⟩ := shortest_is_shortest hx hzero
    have hlength : x.shortest.trimmed.1.length ≤ n := by
      rcases Nat.lt_or_eq_of_le hcoefficient with hless | hfull
      · exact Decimal.trimmed_length_le hn hless
      · -- then one digit is enough, and it has a zero behind it
        have hone : x.ReadsBack ⟨1, x.shortest.exponent + n⟩ :=
          (Decimal.rank_congr (Decimal.value_of_power hfull).symm).trans
            (shortest_reads_back hx (units_pos hzero))
        obtain rfl : n = 1 := Nat.le_antisymm ((hleast _ hone).1 1 (by norm_num)) hn
        rw [pow_one] at hfull
        simp only [Decimal.trimmed, hfull]
        decide
    obtain ⟨hfewest, hnearest⟩ := hleast d hd
    exact ⟨fun k hk => hlength.trans (hfewest k hk),
      fun hk => hnearest (hk.trans_le (Nat.pow_le_pow_right (by decide) hlength))⟩

end Single

/-- Digits with nothing but zeros in front of them and behind. -/
def Padded (digits text : List Char) : Prop :=
  ∃ front back : Nat, text = List.replicate front '0' ++ digits ++ List.replicate back '0'

theorem Padded.one_more {digits text : List Char} (h : Padded digits text) :
    Padded digits (text ++ ['0']) := by
  obtain ⟨front, back, rfl⟩ := h
  exact ⟨front, back + 1, by rw [List.replicate_succ', List.append_assoc _ _ ['0']]⟩

/-- Layout adds zeros and a point to the digits. -/
theorem Decimal.positional_digits (d : Decimal) :
    Padded d.trimmed.1 (d.positional.filter Char.isDigit) := by
  have hdigits : d.trimmed.1.filter Char.isDigit = d.trimmed.1 :=
    List.filter_eq_self.mpr d.trimmed_digits
  have hzeros (n : Nat) :
      (List.replicate n '0').filter Char.isDigit = List.replicate n '0' := by simp
  unfold positional
  generalize d.trimmed = t at hdigits ⊢
  obtain ⟨digits, exponent⟩ := t
  dsimp only at hdigits ⊢
  split
  · exact ⟨0, exponent.toNat, by rw [List.filter_append, hdigits, hzeros]; rfl⟩
  · split
    · refine ⟨0, 0, ?_⟩
      rw [List.filter_append, List.filter_cons_of_neg (by decide), ← List.filter_append,
        List.take_append_drop, hdigits]
      simp
    · refine ⟨(-exponent).toNat - digits.length + 1, 0, ?_⟩
      simp [hdigits, List.replicate_succ]

namespace Single

variable {x : Single}

theorem magnitude_digits (hx : x.isFinite = true) :
    Padded x.written.trimmed.1 (x.magnitudeText.filter Char.isDigit) := by
  have htop := rank_lt_top hx
  have hnan : x.isNaN = false := decide_eq_false (Nat.not_lt.mpr (Nat.le_of_lt htop))
  unfold magnitudeText written
  rw [hnan, if_neg Bool.false_ne_true, if_neg (Nat.ne_of_lt htop)]
  split
  · exact ⟨1, 0, by decide⟩
  · exact Decimal.positional_digits _

theorem literal_digits (hx : x.isFinite = true) :
    Padded x.written.trimmed.1 (x.literal.toList.filter Char.isDigit) := by
  have htext : x.text.toList.filter Char.isDigit = x.magnitudeText.filter Char.isDigit := by
    rw [text, String.toList_ofList]
    split
    · rw [List.filter_cons_of_neg (by decide)]
    · rfl
  have hdigits := magnitude_digits hx
  rw [← htext] at hdigits
  unfold literal
  split
  · exact hdigits
  · rw [String.toList_append, List.filter_append]
    exact hdigits.one_more

/-- The nearest single of all, and of two as near the one with an even significand. -/
structure IsNearest (x : Single) (d : Decimal) : Prop where
  finite : x.isFinite = true
  nearest : ∀ y : Single, |d.value - x.magnitude| ≤ |d.value - y.magnitude|
  even : ∀ y : Single, |d.value - y.magnitude| = |d.value - x.magnitude| →
    y.magnitude = x.magnitude ∨ x.significand % 2 = 0

theorem rank_parity (x : Single) : x.rank % 2 = x.significand % 2 := by
  rw [x.rank_eq, hiddenBit]
  omega

theorem of_decimal_of_reads_back {d : Decimal} (h : x.ReadsBack d) :
    ofDecimal x.isNegative d = x := by
  rw [ofDecimal, show d.rank = x.rank from h, of_rank_rank]

/-- A decimal reads back as the single nearest to it. -/
theorem is_nearest_of_reads_back (hx : x.isFinite = true) {d : Decimal} (h : x.ReadsBack d) :
    x.IsNearest d := by
  have hvalue : d.value < 2 ^ 128 - 2 ^ 103 := by
    by_contra hlarge
    have htop := (top_rank_iff d).mpr (not_lt.mp hlarge)
    exact Nat.ne_of_lt (rank_lt_top hx) (h.symm.trans htop)
  obtain ⟨-, hnearest⟩ := of_decimal_nearest x.isNegative hvalue
  rw [of_decimal_of_reads_back h] at hnearest
  refine ⟨hx, fun y => (hnearest y).1, fun y hy => ?_⟩
  rw [← rank_parity]
  exact (hnearest y).2 hy

end Single

section Text

variable {whole places : List Char}

theorem split_sign_of_digits (negative : Bool) (hwhole : whole ≠ [])
    (hdigits : ∀ c ∈ whole, c.isDigit = true) (rest : List Char) :
    splitSign ((if negative then ['-'] else []) ++ (whole ++ rest)) =
      (negative, whole ++ rest) := by
  obtain ⟨c, more, rfl⟩ := List.exists_cons_of_ne_nil hwhole
  have hc := hdigits c List.mem_cons_self
  cases negative with
  | true => rfl
  | false =>
    rw [if_neg Bool.false_ne_true, List.nil_append, List.cons_append]
    unfold splitSign
    split
    · rename_i h
      rw [List.cons.injEq] at h
      exact absurd (h.1 ▸ hc) (by decide)
    · rename_i h
      rw [List.cons.injEq] at h
      exact absurd (h.1 ▸ hc) (by decide)
    · rfl

theorem Decimal.of_text_digits (hwhole : whole ≠ [])
    (hdigits : ∀ c ∈ whole ++ places, c.isDigit = true) :
    Decimal.ofText? (whole ++ '.' :: places) = some (.ofDigits whole places) := by
  obtain ⟨hw, hp⟩ := List.forall_mem_append.mp hdigits
  have htake : (whole ++ '.' :: places).takeWhile Char.isDigit = whole := by
    rw [List.takeWhile_append_of_pos hw, List.takeWhile_cons_of_neg (by decide), List.append_nil]
  have hdrop : (whole ++ '.' :: places).dropWhile Char.isDigit = '.' :: places := by
    rw [List.dropWhile_append_of_pos hw, List.dropWhile_cons_of_neg (by decide)]
  have htake' : places.takeWhile Char.isDigit = places := List.takeWhile_eq_self_iff.mpr hp
  have hdrop' : places.dropWhile Char.isDigit = [] := List.dropWhile_eq_nil_iff.mpr hp
  simp [ofText?, htake, hdrop, htake', hdrop', hwhole, exponentOf?, ofDigits]

end Text

namespace Single

variable {x : Single}

/-- Reading a literal rounds to the number that was written. -/
theorem of_text_literal (hx : x.isFinite = true) : ofText? x.literal.toList = some x := by
  obtain ⟨whole, places, hwhole, -, hdigits, htext, hvalue⟩ := literal_shape hx
  have hback : x.ReadsBack (.ofDigits whole places) :=
    (Decimal.rank_congr hvalue).trans (written_reads_back hx)
  have hpoint (word : String) (hword : '.' ∉ word.toList) :
      String.ofList ((whole ++ '.' :: places).map Char.toLower) ≠ word := by
    rintro rfl
    apply hword
    rw [String.toList_ofList]
    exact List.mem_map.mpr ⟨'.', by simp, rfl⟩
  rw [ofText?, htext, split_sign_of_digits x.isNegative hwhole
    (fun c hc => hdigits c (List.mem_append_left _ hc))]
  dsimp only
  rw [if_neg (not_or.mpr ⟨hpoint "inf" (by decide), hpoint "infinity" (by decide)⟩),
    if_neg (hpoint "nan" (by decide)), Decimal.of_text_digits hwhole hdigits, Option.map_some,
    of_decimal_of_reads_back hback]

end Single

/-- The literal of a finite single has digits on both sides of one point, a minus for its sign, and
nothing else. The single is the nearest one to what the digits denote, and is what reading gives
back; of all decimals that round to it none has fewer digits, and none with as many is nearer. So
no two singles share a literal. -/
theorem literals_are_exact :
    (∀ x : Single, x.isFinite = true → ∃ whole places digits : List Char,
      whole ≠ [] ∧ places ≠ [] ∧ (∀ c ∈ whole ++ places, c.isDigit = true) ∧
      x.literal.toList = (if x.isNegative then ['-'] else []) ++ (whole ++ '.' :: places) ∧
      Padded digits (whole ++ places) ∧
      x.IsNearest (.ofDigits whole places) ∧
      Single.ofDecimal x.isNegative (.ofDigits whole places) = x ∧
      Single.ofText? x.literal.toList = some x ∧
      ∀ negative d, Single.ofDecimal negative d = x →
        (∀ k, d.coefficient < 10 ^ k → digits.length ≤ k) ∧
        (d.coefficient < 10 ^ digits.length →
          |(Decimal.ofDigits whole places).value - x.magnitude| ≤ |d.value - x.magnitude|)) ∧
    ∀ x y : Single, x.isFinite = true → y.isFinite = true → x.literal = y.literal → x = y := by
  constructor
  · intro x hx
    obtain ⟨whole, places, hwhole, hplaces, hdigits, htext, hvalue⟩ := Single.literal_shape hx
    have hback : x.ReadsBack (.ofDigits whole places) :=
      (Decimal.rank_congr hvalue).trans (Single.written_reads_back hx)
    have hpadded := Single.literal_digits hx
    have hfilter : x.literal.toList.filter Char.isDigit = whole ++ places := by
      have hall := List.filter_eq_self.mpr hdigits
      rw [List.filter_append] at hall
      rw [htext, List.filter_append, List.filter_append, List.filter_cons_of_neg (by decide), hall]
      cases x.isNegative <;> rfl
    rw [hfilter] at hpadded
    refine ⟨whole, places, x.written.trimmed.1, hwhole, hplaces, hdigits, htext, hpadded,
      Single.is_nearest_of_reads_back hx hback, Single.of_decimal_of_reads_back hback,
      Single.of_text_literal hx, fun negative d hd => ?_⟩
    rw [hvalue]
    apply Single.written_is_shortest hx
    rw [Single.ReadsBack, ← hd, Single.of_decimal_rank]
  · intro x y hx hy h
    have hread := Single.of_text_literal hx
    rw [h, Single.of_text_literal hy] at hread
    exact (Option.some.inj hread).symm

/-- The smallest number, the largest one and a zero with a sign. -/
theorem literals_are_exact_extremes :
    (∀ x ∈ [⟨1⟩, ⟨0x7f7fffff⟩, (⟨0x80000000⟩ : Single)], x.isFinite = true) ∧
    Single.ofText? (Single.literal ⟨1⟩).toList = some ⟨1⟩ ∧
    Single.ofText? (Single.literal ⟨0x7f7fffff⟩).toList = some ⟨0x7f7fffff⟩ ∧
    Single.literal ⟨0x80000000⟩ ≠ Single.literal ⟨0⟩ := by
  have hread (x : Single) (hx : x.isFinite = true) : Single.ofText? x.literal.toList = some x := by
    obtain ⟨-, -, -, -, -, -, -, -, -, -, h, -⟩ := literals_are_exact.1 x hx
    exact h
  refine ⟨by decide, hread ⟨1⟩ (by decide), hread ⟨0x7f7fffff⟩ (by decide), fun h => ?_⟩
  have hzero := literals_are_exact.2 ⟨0x80000000⟩ ⟨0⟩ (by decide) (by decide) h
  revert hzero
  decide

end Groundcover
