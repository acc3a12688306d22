import Mathlib.Analysis.SpecialFunctions.Log.Deriv
import Mathlib.Analysis.Complex.ExponentialBounds

/-!
# The survival floor

`test/SurvivalFloor.t.sol` computes `floor(f * graceBlocks)` of DESIGN §10.1 in
integers. None of its products reaches 2^256 for a `uint64` argument. What it
returns is off the real floor by far less than a block.
-/
namespace SwarmVolumes.Source.SurvivalFloor

/-- `ROUND_LENGTH` and `ONE`. -/
def roundLength : Nat := 152
def one : Nat := 10 ^ 18

/-- `oracle.changeRate(0)` and `oracle.priceBase()`. -/
def kmaxNum : Nat := 1049417
def priceBase : Nat := 1048576

/-- The price after one raise by `K_max`. -/
def newPrice (lastPrice : Nat) : Nat := lastPrice * kmaxNum / priceBase

/-- The loop of `_ln`. `term` falls in every pass, so `fuel` above it is enough. -/
def lnLoop (z2 : Nat) : (fuel k term sum : Nat) → Nat
  | 0, _, _, sum => sum
  | fuel + 1, k, term, sum =>
    if term = 0 then sum
    else lnLoop z2 fuel (k + 1) (term * z2 / one) (sum + term / (2 * k + 1))

/-- `_ln`, in units of `ONE`. -/
def ln (y : Nat) : Option Nat :=
  if y < one then none
  else
    let z := (y - one) * one / (y + one)
    let z2 := z * z / one
    some (2 * lnLoop z2 (z + 1) 0 z 0)

/-- `_computeFloorBlocks`. -/
def computeFloorBlocks (graceBlocks : UInt64) : Option Nat :=
  if kmaxNum ≤ priceBase then none
  else do
    let lnK ← ln (kmaxNum * one / priceBase)
    let lambdaG := lnK * graceBlocks.toNat / roundLength
    if lambdaG = 0 then some graceBlocks.toNat
    else
      let lnG ← ln (one + lambdaG)
      let fScaled := lnG * one / lambdaG
      some (graceBlocks.toNat * fScaled / one)

/-- The values the suite runs. -/
example : [12, 300, 17280, 120960].map computeFloorBlocks =
    [some 11, some 299, some 16537, some 93559] := by decide +kernel

/-! ## The logarithm -/

theorem one_pos : (0 : ℝ) < one := by
  unfold one
  norm_num

/-- Every term and every quotient is rounded down. -/
theorem lnLoop_le {z : ℝ} (nonneg : 0 ≤ z) (less : z < 1) {z2 : Nat} (square : (z2 : ℝ) ≤ one * z ^ 2)
    (fuel k term sum : Nat) (power : (term : ℝ) ≤ one * z ^ (2 * k + 1))
    (partly : (sum : ℝ) ≤ one * ∑ i ∈ Finset.range k, z ^ (2 * i + 1) / (2 * i + 1)) :
    (lnLoop z2 fuel k term sum : ℝ) ≤ one * (1 / 2 * Real.log ((1 + z) / (1 - z))) := by
  have scale := one_pos
  induction fuel generalizing k term sum with
  | zero =>
    refine partly.trans (mul_le_mul_of_nonneg_left ?_ scale.le)
    exact Real.sum_range_le_log_div nonneg less k
  | succ fuel ih =>
    rw [lnLoop]
    split
    · refine partly.trans (mul_le_mul_of_nonneg_left ?_ scale.le)
      exact Real.sum_range_le_log_div nonneg less k
    · refine ih (k + 1) _ _ ?_ ?_
      · calc ((term * z2 / one : Nat) : ℝ) ≤ (term * z2 : Nat) / one := Nat.cast_div_le
          _ = term * z2 / one := by rw [Nat.cast_mul]
          _ ≤ one * z ^ (2 * k + 1) * (one * z ^ 2) / one := by gcongr
          _ = one * z ^ (2 * (k + 1) + 1) := by
            field_simp
            ring
      · rw [Finset.sum_range_succ, mul_add, Nat.cast_add]
        refine add_le_add partly ?_
        calc ((term / (2 * k + 1) : Nat) : ℝ) ≤ term / (2 * k + 1 : Nat) := Nat.cast_div_le
          _ ≤ one * z ^ (2 * k + 1) / (2 * k + 1 : Nat) := by gcongr
          _ = one * (z ^ (2 * k + 1) / (2 * k + 1)) := by
            push_cast
            ring

/-- `_ln` never exceeds the logarithm. -/
theorem ln_le_log {y l : Nat} (ok : ln y = some l) : (l : ℝ) ≤ one * Real.log (y / one) := by
  have scale := one_pos
  unfold ln at ok
  split at ok
  · cases ok
  · rename_i domain
    cases ok
    have least : (one : ℝ) ≤ y := by exact_mod_cast Nat.not_lt.mp domain
    have sum : (0 : ℝ) < y + one := by linarith
    have nonneg : (0 : ℝ) ≤ (y - one) / (y + one) := div_nonneg (by linarith) sum.le
    have less : ((y : ℝ) - one) / (y + one) < 1 := by
      rw [div_lt_one sum]
      linarith
    have ratio : (1 + ((y : ℝ) - one) / (y + one)) / (1 - (y - one) / (y + one)) = y / one := by
      have upper : 1 + ((y : ℝ) - one) / (y + one) = 2 * y / (y + one) := by
        field_simp
        ring
      have lower : 1 - ((y : ℝ) - one) / (y + one) = 2 * one / (y + one) := by
        field_simp
        ring
      rw [upper, lower, div_div_div_cancel_right₀ sum.ne', mul_div_mul_left _ _ two_ne_zero]
    have first : (((y - one) * one / (y + one) : Nat) : ℝ) ≤ one * ((y - one) / (y + one)) := by
      refine Nat.cast_div_le.trans ?_
      rw [Nat.cast_mul, Nat.cast_sub (Nat.not_lt.mp domain), Nat.cast_add]
      apply le_of_eq
      ring
    generalize (y - one) * one / (y + one) = z at first
    have square : ((z * z / one : Nat) : ℝ) ≤ one * (((y : ℝ) - one) / (y + one)) ^ 2 := by
      calc ((z * z / one : Nat) : ℝ) ≤ (z * z : Nat) / one := Nat.cast_div_le
        _ = z * z / one := by rw [Nat.cast_mul]
        _ ≤ one * (((y : ℝ) - one) / (y + one)) * (one * ((y - one) / (y + one))) / one := by gcongr
        _ = one * (((y : ℝ) - one) / (y + one)) ^ 2 := by
          field_simp
    have bound := lnLoop_le nonneg less square (z + 1) 0 z 0 (by simpa using first) (by simp)
    rw [ratio] at bound
    push_cast
    linarith

/-! ## The floor -/

/-- `lnK`, which rounding keeps just below the logarithm of `K_max`. -/
def lnKmax : Nat := 801718637808852

theorem ln_kmax : ln (kmaxNum * one / priceBase) = some lnKmax := by decide +kernel

/-- `λ`, per block. -/
noncomputable def rate : ℝ := Real.log (kmaxNum / priceBase) / roundLength

theorem lnKmax_le : (lnKmax : ℝ) / one ≤ Real.log (kmaxNum / priceBase) := by
  have below := ln_le_log ln_kmax
  rw [div_le_iff₀ one_pos, mul_comm]
  refine below.trans (mul_le_mul_of_nonneg_left (Real.log_le_log ?_ ?_) one_pos.le)
  · norm_num [kmaxNum, priceBase, one]
  · norm_num [kmaxNum, priceBase, one]

theorem le_lnKmax : Real.log (kmaxNum / priceBase) ≤ lnKmax / one + 1 / 10 ^ 12 := by
  have series := Real.log_div_le_sum_range_add (x := 841 / 2097993) (by norm_num) (by norm_num) 2
  have ratio : ((1 : ℝ) + 841 / 2097993) / (1 - 841 / 2097993) = kmaxNum / priceBase := by
    norm_num [kmaxNum, priceBase]
  rw [ratio] at series
  norm_num [Finset.sum_range_succ] at series
  norm_num [lnKmax, one]
  linarith

/-- For a positive argument the floor comes from the second logarithm. -/
theorem computeFloorBlocks_some {graceBlocks : UInt64} (grace : 0 < graceBlocks.toNat) :
    ∃ lambdaG lnG, lambdaG = lnKmax * graceBlocks.toNat / roundLength ∧ 0 < lambdaG ∧
      ln (one + lambdaG) = some lnG ∧
      computeFloorBlocks graceBlocks = some (graceBlocks.toNat * (lnG * one / lambdaG) / one) := by
  have positive : 0 < lnKmax * graceBlocks.toNat / roundLength := by
    refine Nat.div_pos ?_ (by decide)
    exact Nat.le_trans (by decide : roundLength ≤ lnKmax * 1) (Nat.mul_le_mul_left _ grace)
  obtain ⟨lnG, read⟩ : ∃ lnG, ln (one + lnKmax * graceBlocks.toNat / roundLength) = some lnG :=
    ⟨_, if_neg (Nat.not_lt.mpr (Nat.le_add_right ..))⟩
  refine ⟨_, lnG, rfl, positive, read, ?_⟩
  rw [computeFloorBlocks, if_neg (by decide), ln_kmax]
  dsimp only [Option.bind_eq_bind, Option.bind_some]
  rw [if_neg positive.ne', read]
  rfl

/-- `r` is the rate that is computed with; it is rounded down. -/
theorem computed_rate {G lambdaG : Nat} (grace : 0 < G) (computed : lambdaG = lnKmax * G / roundLength)
    {r : ℝ} (same : r * (one * G) = lambdaG) :
    r ≤ rate ∧ rate - r ≤ 1 / 10 ^ 13 ∧ 5 / 10 ^ 6 ≤ r ∧ r ≤ 1 := by
  have least : (1 : ℝ) ≤ G := by exact_mod_cast grace
  have scale := one_pos
  have above : r * roundLength ≤ lnKmax / one := by
    have product : (lambdaG : ℝ) * roundLength ≤ lnKmax * G := by
      rw [computed]
      exact_mod_cast Nat.div_mul_le_self ..
    rw [le_div_iff₀ scale]
    refine le_of_mul_le_mul_right ?_ (by linarith : (0 : ℝ) < G)
    calc r * roundLength * one * G = r * (one * G) * roundLength := by ring
      _ ≤ lnKmax * G := by rwa [same]
  have below : (lnKmax : ℝ) / one ≤ (r + 1 / one) * roundLength := by
    have product : (lnKmax : ℝ) * G ≤ (lambdaG + 1) * roundLength := by
      have next := (Nat.lt_mul_div_succ (lnKmax * G) (by decide : 0 < roundLength)).le
      rw [Nat.mul_comm roundLength] at next
      rw [computed]
      exact_mod_cast next
    rw [div_le_iff₀ scale]
    refine le_of_mul_le_mul_right ?_ (by linarith : (0 : ℝ) < G)
    calc (lnKmax : ℝ) * G ≤ (lambdaG + 1) * roundLength := product
      _ ≤ (r * (one * G) + G) * roundLength := by
        rw [same]
        gcongr
      _ = (r + 1 / one) * roundLength * one * G := by
        field_simp
  have low := lnKmax_le
  have high := le_lnKmax
  have whole : rate * roundLength = Real.log (kmaxNum / priceBase) :=
    div_mul_cancel₀ _ (by norm_num [roundLength])
  rw [← whole] at low high
  norm_num [lnKmax, one, roundLength] at above below low high
  refine ⟨?_, ?_, ?_, ?_⟩ <;> linarith

/-- `F` blocks at the computed rate are within the budget of `G` blocks. -/
theorem computed_budget {G lambdaG lnG F : Nat} (grace : 0 < G) (positive : 0 < lambdaG)
    (read : ln (one + lambdaG) = some lnG) (floor : F = G * (lnG * one / lambdaG) / one)
    {r : ℝ} (same : r * (one * G) = lambdaG) : r * F ≤ Real.log (1 + r * G) := by
  have scale := one_pos
  have blocks : (0 : ℝ) < G := Nat.cast_pos.mpr grace
  have divisor : (0 : ℝ) < lambdaG := Nat.cast_pos.mpr positive
  have logarithm : (lnG : ℝ) / one ≤ Real.log (1 + r * G) := by
    rw [div_le_iff₀ scale, mul_comm]
    refine (ln_le_log read).trans (le_of_eq ?_)
    congr 2
    rw [Nat.cast_add, ← same]
    field_simp
  have rounded : (F : ℝ) ≤ G * (lnG / lambdaG) := by
    have inner : ((lnG * one / lambdaG : Nat) : ℝ) ≤ lnG * one / lambdaG :=
      Nat.cast_div_le.trans (by rw [Nat.cast_mul])
    calc (F : ℝ) ≤ (G * (lnG * one / lambdaG) : Nat) / one := by
          rw [floor]
          exact Nat.cast_div_le
      _ = G * (lnG * one / lambdaG : Nat) / one := by rw [Nat.cast_mul]
      _ ≤ G * (lnG * one / lambdaG) / one := by gcongr
      _ = G * (lnG / lambdaG) := by field_simp
  have slope : 0 < r := by
    rwa [← same, mul_pos_iff_of_pos_right (mul_pos scale blocks)] at divisor
  calc r * F ≤ r * (G * (lnG / lambdaG)) := mul_le_mul_of_nonneg_left rounded slope.le
    _ = lnG / one := by
      rw [← same]
      field_simp
    _ ≤ Real.log (1 + r * G) := logarithm

/-- The floor is short of the real one by less than a block: one block earlier the
exponential has not used the budget up. -/
theorem computeFloorBlocks_spec {graceBlocks : UInt64} (grace : 0 < graceBlocks.toNat) :
    ∃ floorBlocks, computeFloorBlocks graceBlocks = some floorBlocks ∧
      (Real.exp (rate * (floorBlocks - 1 : Nat)) - 1) / rate < graceBlocks.toNat := by
  obtain ⟨lambdaG, lnG, computed, positive, read, returned⟩ := computeFloorBlocks_some grace
  refine ⟨_, returned, ?_⟩
  have word := graceBlocks.toNat_lt
  generalize floor : graceBlocks.toNat * (lnG * one / lambdaG) / one = F
  generalize size : graceBlocks.toNat = G at grace computed floor word
  have scale := one_pos
  have blocks : (0 : ℝ) < G := Nat.cast_pos.mpr grace
  obtain ⟨r, same⟩ : ∃ r : ℝ, r * (one * G) = lambdaG :=
    ⟨lambdaG / (one * G), div_mul_cancel₀ _ (mul_pos scale blocks).ne'⟩
  obtain ⟨slower, close, least, most⟩ := computed_rate grace computed same
  have budget := computed_budget grace positive read floor.symm same
  have steep : 0 < rate := by linarith
  rcases Nat.eq_zero_or_pos F with rfl | some
  · simpa using blocks
  have argument : 0 < 1 + r * G := by positivity
  have short : Real.log (1 + r * G) ≤ 45 := by
    have largest : 1 + r * G ≤ 2 ^ 64 := by
      have bound : (G : ℝ) + 1 ≤ 2 ^ 64 := by exact_mod_cast word
      nlinarith
    calc Real.log (1 + r * G) ≤ Real.log (2 ^ 64) := Real.log_le_log argument largest
      _ = 64 * Real.log 2 := by rw [Real.log_pow]; norm_num
      _ ≤ 45 := by linarith [Real.log_two_lt_d9]
  have few : (F : ℝ) ≤ 9 * 10 ^ 6 := by nlinarith
  -- The rounding of the rate costs less than the last block.
  have earlier : rate * (F - 1 : Nat) < r * F := by
    rw [Nat.cast_pred some]
    nlinarith
  rw [div_lt_iff₀ steep]
  calc Real.exp (rate * (F - 1 : Nat)) - 1 < Real.exp (r * F) - 1 :=
        sub_lt_sub_right (Real.exp_lt_exp.mpr earlier) 1
    _ ≤ 1 + r * G - 1 := by
        refine sub_le_sub_right ?_ 1
        rw [← Real.exp_log argument]
        exact Real.exp_le_exp.mpr budget
    _ = G * r := by ring
    _ ≤ G * rate := mul_le_mul_of_nonneg_left slower blocks.le

end SwarmVolumes.Source.SurvivalFloor
