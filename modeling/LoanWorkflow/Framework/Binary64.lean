import Mathlib.Data.Int.Log
import Mathlib.Data.Rat.Floor
import Mathlib.Tactic.Positivity

/-! # Rounding to binary64

    The value that an IEEE 754 double takes for an exact rational result:
    round to nearest, ties to even, with 53 bits of significand and the
    subnormal range below `2 ^ (-1022)`. Overflow to infinity is left out.

    The one fact that programs lean on is `round_mono`: rounding never
    reverses an order, so a comparison of rounded values never contradicts
    the comparison of the exact ones.
-/

namespace Binary64

variable {x y : ℚ} {j : ℤ}

/-! ### Rounding to an integer -/

/-- Nearest integer, ties to even. -/
def nearestEven (q : ℚ) : ℤ :=
  if q - ⌊q⌋ < 1 / 2 then ⌊q⌋
  else if 1 / 2 < q - ⌊q⌋ then ⌊q⌋ + 1
  else if ⌊q⌋ % 2 = 0 then ⌊q⌋
  else ⌊q⌋ + 1

theorem nearestEven_intCast (n : ℤ) : nearestEven n = n := by
  simp [nearestEven]

theorem floor_le_nearestEven (q : ℚ) : ⌊q⌋ ≤ nearestEven q := by
  unfold nearestEven
  split_ifs <;> omega

theorem nearestEven_le_floor_add_one (q : ℚ) : nearestEven q ≤ ⌊q⌋ + 1 := by
  unfold nearestEven
  split_ifs <;> omega

theorem nearestEven_mono {p q : ℚ} (h : p ≤ q) : nearestEven p ≤ nearestEven q := by
  have hfloor : ⌊p⌋ ≤ ⌊q⌋ := Int.floor_le_floor h
  by_cases heq : ⌊p⌋ = ⌊q⌋
  · -- the same integer part, so the fractional parts decide
    unfold nearestEven
    rw [heq]
    split_ifs <;> first | omega | (exfalso; linarith)
  · calc nearestEven p ≤ ⌊p⌋ + 1 := nearestEven_le_floor_add_one p
      _ ≤ ⌊q⌋ := by omega
      _ ≤ nearestEven q := floor_le_nearestEven q

/-! ### Rounding a positive value -/

/-- Exponent of the last bit of the significand at `x`. -/
def lastBit (x : ℚ) : ℤ := max (Int.log 2 x) (-1022) - 52

/-- The double nearest to `x ≥ 0`. -/
def roundPos (x : ℚ) : ℚ := nearestEven (x / 2 ^ lastBit x) * 2 ^ lastBit x

theorem two_zpow_pos (k : ℤ) : (0 : ℚ) < 2 ^ k := zpow_pos (by norm_num) k

/-- Powers of two at or above the last bit are themselves doubles at that scale. -/
theorem two_zpow_div {k : ℤ} (h : k ≤ j) : ∃ n : ℤ, (2 : ℚ) ^ j / 2 ^ k = n := by
  refine ⟨2 ^ (j - k).toNat, ?_⟩
  rw [← zpow_sub₀ (by norm_num : (2 : ℚ) ≠ 0)]
  have hj : ((j - k).toNat : ℤ) = j - k := by omega
  push_cast
  rw [← zpow_natCast, hj]

theorem roundPos_le_two_zpow (hx : x ≤ 2 ^ j) (hj : lastBit x ≤ j) : roundPos x ≤ 2 ^ j := by
  obtain ⟨n, hn⟩ := two_zpow_div hj
  have hpos := two_zpow_pos (lastBit x)
  have hle : nearestEven (x / 2 ^ lastBit x) ≤ n := by
    rw [← nearestEven_intCast n, ← hn]
    exact nearestEven_mono (div_le_div_of_nonneg_right hx hpos.le)
  calc roundPos x ≤ n * 2 ^ lastBit x := by
        exact mul_le_mul_of_nonneg_right (by exact_mod_cast hle) hpos.le
    _ = 2 ^ j := by rw [← hn]; field_simp

theorem two_zpow_le_roundPos (hx : 2 ^ j ≤ x) (hj : lastBit x ≤ j) : 2 ^ j ≤ roundPos x := by
  obtain ⟨n, hn⟩ := two_zpow_div hj
  have hpos := two_zpow_pos (lastBit x)
  have hle : n ≤ nearestEven (x / 2 ^ lastBit x) := by
    rw [← nearestEven_intCast n, ← hn]
    exact nearestEven_mono (div_le_div_of_nonneg_right hx hpos.le)
  calc (2 : ℚ) ^ j = n * 2 ^ lastBit x := by rw [← hn]; field_simp
    _ ≤ roundPos x := by
        exact mul_le_mul_of_nonneg_right (by exact_mod_cast hle) hpos.le

theorem roundPos_nonneg (hx : 0 ≤ x) : 0 ≤ roundPos x := by
  have hpos := two_zpow_pos (lastBit x)
  have hle : 0 ≤ nearestEven (x / 2 ^ lastBit x) := by
    rw [← nearestEven_intCast 0]
    exact nearestEven_mono (by push_cast; positivity)
  exact mul_nonneg (by exact_mod_cast hle) hpos.le

theorem roundPos_mono (hx : 0 ≤ x) (h : x ≤ y) : roundPos x ≤ roundPos y := by
  rcases hx.eq_or_lt with rfl | hx
  · have h0 : roundPos 0 = 0 := by simp [roundPos, nearestEven]
    rw [h0]; exact roundPos_nonneg h
  have hlog : Int.log 2 x ≤ Int.log 2 y := Int.log_mono_right hx h
  by_cases heq : lastBit x = lastBit y
  · -- one scale: rounding to an integer decides
    unfold roundPos
    rw [heq]
    have hpos := two_zpow_pos (lastBit y)
    refine mul_le_mul_of_nonneg_right ?_ hpos.le
    exact_mod_cast nearestEven_mono (div_le_div_of_nonneg_right h hpos.le)
  · -- different scales: a power of two lies between the two values
    have hlt : max (Int.log 2 x) (-1022) < Int.log 2 y := by
      unfold lastBit at heq; omega
    have hxpow : x ≤ 2 ^ (Int.log 2 y) := by
      calc x ≤ 2 ^ (Int.log 2 x + 1) := by
            exact_mod_cast (Int.lt_zpow_succ_log_self (by norm_num : 1 < 2) x).le
        _ ≤ 2 ^ (Int.log 2 y) := zpow_le_zpow_right₀ (by norm_num) (by omega)
    have hypow : (2 : ℚ) ^ (Int.log 2 y) ≤ y := by
      exact_mod_cast Int.zpow_log_le_self (by norm_num : 1 < 2) (hx.trans_le h)
    calc roundPos x ≤ 2 ^ (Int.log 2 y) :=
          roundPos_le_two_zpow hxpow (by unfold lastBit; omega)
      _ ≤ roundPos y := two_zpow_le_roundPos hypow (by unfold lastBit; omega)

/-! ### Rounding -/

/-- The double nearest to `x`. -/
def round (x : ℚ) : ℚ := if x < 0 then -roundPos (-x) else roundPos x

theorem round_mono (h : x ≤ y) : round x ≤ round y := by
  unfold round
  split_ifs with hx hy hy
  · exact neg_le_neg (roundPos_mono (by linarith) (by linarith))
  · have h₁ := roundPos_nonneg (x := -x) (by linarith)
    have h₂ := roundPos_nonneg (x := y) (by linarith)
    linarith
  · linarith
  · exact roundPos_mono (by linarith) h

theorem lt_of_round_lt (h : round x < round y) : x < y := by
  by_contra hle
  exact absurd (round_mono (not_lt.mp hle)) (not_le.mpr h)

/-- A positive value with an integral significand is its own double. -/
theorem round_of_significand (hx : 0 ≤ x) {n : ℤ} (h : x / 2 ^ lastBit x = n) : round x = x := by
  have hpos := two_zpow_pos (lastBit x)
  simp only [round, not_lt.mpr hx, if_false, roundPos]
  rw [h, nearestEven_intCast, ← h]
  field_simp

theorem round_one : round 1 = 1 :=
  round_of_significand (by norm_num) (n := 2 ^ 52) (by norm_num [lastBit])

/-- Integers of at most 53 bits are doubles. -/
theorem round_natCast {n : ℕ} (h : n < 2 ^ 53) : round n = n := by
  rcases n.eq_zero_or_pos with rfl | hpos
  · simp [round, roundPos, nearestEven]
  have hlog : Int.log 2 (n : ℚ) < 53 := by
    rw [Int.log_natCast]
    exact_mod_cast Nat.log_lt_of_lt_pow hpos.ne' h
  have hlast : lastBit (n : ℚ) ≤ 0 := by
    unfold lastBit
    omega
  obtain ⟨k, hk⟩ := two_zpow_div hlast
  refine round_of_significand (n.cast_nonneg) (n := n * k) ?_
  push_cast
  rw [← hk, zpow_zero, mul_one_div]

theorem round_three_quarters : round (3 / 4) = 3 / 4 := by
  have hlog : Int.log 2 (3 / 4 : ℚ) = -1 := by
    have hceil : ⌈((3 / 4 : ℚ))⁻¹⌉₊ = 2 := by
      rw [Nat.ceil_eq_iff (by norm_num)]
      norm_num
    rw [Int.log_of_right_le_one _ (by norm_num), hceil]
    rfl
  exact round_of_significand (by norm_num) (n := 3 * 2 ^ 51) (by norm_num [lastBit, hlog])

end Binary64
