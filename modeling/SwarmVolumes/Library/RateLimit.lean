import Mathlib.Algebra.BigOperators.Intervals
import Mathlib.Algebra.Field.GeomSum
import Mathlib.Analysis.SpecialFunctions.Log.Basic
import Mathlib.Order.Iterate

/-!
# Rate-limited values

A value that changes in at most one of any `u` consecutive blocks, and by a
bounded rise each time. Of all such courses the steepest changes as soon and as
often as it may, and rises as far as it may each time; its sum over blocks is
then below that of a continuous exponential, once the first change comes a full
period after the start.
-/
namespace Library

variable {rise : Nat → Nat} {u start phase : Nat} {value : Nat → Nat}

/-- The value a block starts with. -/
def previous (start : Nat) (value : Nat → Nat) : Nat → Nat
  | 0 => start
  | s + 1 => value s

/-- `value s` is the value a block `s` leaves, from `start` on. -/
structure RateLimited (rise : Nat → Nat) (u start : Nat) (value : Nat → Nat) : Prop where
  bounded : ∀ s, value s ≤ rise (previous start value s)
  spaced : ∀ s t, s < t → t < s + u → value s ≠ previous start value s →
    value t = previous start value t

/-- No change before block `phase`. -/
def LateBy (phase start : Nat) (value : Nat → Nat) : Prop :=
  ∀ s < phase, value s = previous start value s

/-- How often the value can have changed by the end of block `s`. -/
def changes (u phase s : Nat) : Nat := if s < phase then 0 else 1 + (s - phase) / u

/-- The first change in block `phase` and one every `u` blocks from then on. -/
def steepest (rise : Nat → Nat) (u phase start s : Nat) : Nat := rise^[changes u phase s] start

/-- The sum over the first `n` blocks. -/
def total (value : Nat → Nat) (n : Nat) : Nat := ∑ s ∈ Finset.range n, value s

theorem total_mono {value' : Nat → Nat} (below : ∀ s, value s ≤ value' s) (n : Nat) :
    total value n ≤ total value' n :=
  Finset.sum_le_sum fun s _ => below s

theorem total_le_total {m n : Nat} (le : m ≤ n) : total value m ≤ total value n :=
  Finset.sum_le_sum_of_subset (Finset.range_subset_range.mpr le)

theorem le_changes {s m : Nat} (far : phase + u * m ≤ s) (positive : 0 < u) : m + 1 ≤ changes u phase s := by
  unfold changes
  rw [if_neg (by omega), Nat.add_comm]
  exact Nat.add_le_add_left ((Nat.le_div_iff_mul_le positive).mpr (by rw [Nat.mul_comm]; omega)) 1

/-- A rate-limited value has made `n` changes of which the last is `n - 1` periods
after the first. -/
theorem RateLimited.counted (limited : RateLimited rise u start value) (late : LateBy phase start value)
    (mono : Monotone rise) (s : Nat) : ∃ n, value s ≤ rise^[n] start ∧
      (n = 0 ∨ ∃ m last, n = m + 1 ∧ phase + u * m ≤ last ∧ last ≤ s ∧
        value last ≠ previous start value last) := by
  induction s with
  | zero =>
    by_cases same : value 0 = start
    · exact ⟨0, same.le, .inl rfl⟩
    · have due : phase = 0 := by
        by_contra early
        exact same (late 0 (Nat.pos_of_ne_zero early))
      exact ⟨1, limited.bounded 0, .inr ⟨0, 0, rfl, by omega, Nat.le_refl 0, same⟩⟩
  | succ s ih =>
    obtain ⟨n, below, times⟩ := ih
    by_cases same : value (s + 1) = value s
    · refine ⟨n, same.trans_le below, times.imp_right ?_⟩
      rintro ⟨m, last, count, far, past, changed⟩
      exact ⟨m, last, count, far, by omega, changed⟩
    · have risen : value (s + 1) ≤ rise^[n + 1] start := by
        rw [Function.iterate_succ_apply']
        exact (limited.bounded (s + 1)).trans (mono below)
      refine ⟨n + 1, risen, .inr ⟨n, s + 1, rfl, ?_, Nat.le_refl _, same⟩⟩
      rcases times with rfl | ⟨m, last, rfl, far, past, changed⟩
      · have due : phase ≤ s + 1 := by
          by_contra early
          exact same (late (s + 1) (Nat.not_le.mp early))
        omega
      · have apart : last + u ≤ s + 1 := by
          by_contra close
          exact same (limited.spaced last (s + 1) (by omega) (Nat.not_le.mp close) changed)
        rw [Nat.mul_succ]
        omega

theorem RateLimited.le_steepest (limited : RateLimited rise u start value)
    (late : LateBy phase start value) (mono : Monotone rise) (grows : ∀ n, n ≤ rise n)
    (positive : 0 < u) (s : Nat) : value s ≤ steepest rise u phase start s := by
  obtain ⟨n, below, times⟩ := limited.counted late mono s
  have most : n ≤ changes u phase s := by
    rcases times with rfl | ⟨m, last, rfl, far, past, _⟩
    · exact Nat.zero_le _
    · exact le_changes (far.trans past) positive
  exact below.trans (Function.monotone_iterate_of_id_le grows most start)

/-- The number of changes only steps at the blocks `phase + u * k`. -/
theorem changes_succ (u phase s : Nat) : changes u phase (s + 1) = changes u phase s ∨
    changes u phase (s + 1) = changes u phase s + 1 ∧ ∃ k, s + 1 = phase + u * k := by
  unfold changes
  by_cases early : s + 1 < phase
  · rw [if_pos early, if_pos (by omega)]
    exact .inl rfl
  · by_cases first : s + 1 = phase
    · rw [if_neg early, if_pos (by omega), first, Nat.sub_self, Nat.zero_div]
      exact .inr ⟨rfl, 0, rfl⟩
    · rw [if_neg early, if_neg (by omega), Nat.sub_add_comm (by omega), Nat.succ_div]
      split
      · rename_i divides
        obtain ⟨k, whole⟩ := divides
        exact .inr ⟨rfl, k, by omega⟩
      · exact .inl rfl

theorem steepest_changes {s : Nat}
    (changed : steepest rise u phase start s ≠ previous start (steepest rise u phase start) s) :
    ∃ k, s = phase + u * k := by
  cases s with
  | zero =>
    by_cases due : phase = 0
    · exact ⟨0, by omega⟩
    · refine absurd ?_ changed
      rw [steepest, changes, if_pos (Nat.pos_of_ne_zero due)]
      rfl
  | succ s =>
    rcases changes_succ u phase s with same | ⟨_, multiple⟩
    · refine absurd ?_ changed
      rw [steepest, same]
      rfl
    · exact multiple

/-- The steepest course is one of them. -/
theorem steepest_limited (grows : ∀ n, n ≤ rise n) : RateLimited rise u start
    (steepest rise u phase start) := by
  refine ⟨fun s => ?_, fun s t after before changed => ?_⟩
  · cases s with
    | zero =>
      rw [steepest, changes, Nat.zero_sub, Nat.zero_div]
      split
      · exact grows start
      · exact Nat.le_refl _
    | succ s =>
      rcases changes_succ u phase s with same | ⟨one, _⟩
      · rw [steepest, same]
        exact grows _
      · rw [steepest, one, Function.iterate_succ_apply']
        exact Nat.le_refl _
  · by_contra again
    obtain ⟨j, rfl⟩ := steepest_changes changed
    obtain ⟨k, rfl⟩ := steepest_changes again
    have less : j < k := Nat.lt_of_mul_lt_mul_left (Nat.lt_of_add_lt_add_left after)
    have more : k < j + 1 := by
      refine Nat.lt_of_mul_lt_mul_left (a := u) ?_
      rw [Nat.mul_succ]
      omega
    omega

theorem steepest_late : LateBy phase start (steepest rise u phase start) := by
  intro s early
  rw [steepest, changes, if_pos early]
  cases s with
  | zero => rfl
  | succ s =>
    rw [previous, steepest, changes, if_pos (by omega)]

/-- What every rate-limited value keeps below, over the first `n` blocks, is what the
steepest one does. -/
theorem limited_below_iff (mono : Monotone rise) (grows : ∀ n, n ≤ rise n) (positive : 0 < u)
    (phase start bound n : Nat) : (∀ value, RateLimited rise u start value → LateBy phase start value →
      total value n < bound) ↔ total (steepest rise u phase start) n < bound := by
  constructor
  · intro all
    exact all _ (steepest_limited grows) steepest_late
  · intro below value limited late
    exact (total_mono (limited.le_steepest late mono grows positive) n).trans_lt below

/-! ## From a later block on -/

/-- Seen from block `s` on, before or after its change, the value is rate-limited. -/
theorem RateLimited.shift (limited : RateLimited rise u start value) (grows : ∀ n, n ≤ rise n) {s first : Nat}
    (seen : first = previous start value s ∨ first = value s) :
    RateLimited rise u first fun k => value (s + k) := by
  have before : ∀ k, previous first (fun k => value (s + k)) (k + 1) =
      previous start value (s + (k + 1)) := fun k => rfl
  refine ⟨fun k => ?_, fun j k after close changed => ?_⟩
  · cases k with
    | zero =>
      rcases seen with rfl | rfl
      · exact limited.bounded s
      · exact grows _
    | succ k => exact limited.bounded (s + (k + 1))
  · cases k with
    | zero => omega
    | succ k =>
      rw [before]
      apply limited.spaced (s + j) (s + (k + 1)) (by omega) (by omega)
      cases j with
      | zero =>
        rcases seen with rfl | rfl
        · exact changed
        · exact absurd rfl changed
      | succ j => exact changed

theorem LateBy.zero (start : Nat) (value : Nat → Nat) : LateBy 0 start value :=
  fun _ early => absurd early (Nat.not_lt_zero _)

/-- To rise at once is to start a rise higher, a period before the next. -/
theorem steepest_zero (positive : 0 < u) (s : Nat) :
    steepest rise u 0 start s = steepest rise u u (rise start) s := by
  have count : changes u 0 s = changes u u s + 1 := by
    unfold changes
    rw [if_neg (Nat.not_lt_zero s), Nat.sub_zero, Nat.add_comm]
    congr 1
    split
    · rename_i early
      exact Nat.div_eq_of_lt early
    · rename_i late
      have parts : s = (s - u) + u := by omega
      rw [parts, Nat.add_div_right _ positive, Nat.add_sub_cancel, Nat.add_comm]
  rw [steepest, steepest, count, Function.iterate_succ_apply]

/-- To rise at once is the steepest of all. -/
theorem steepest_le_zero (mono : Monotone rise) (grows : ∀ n, n ≤ rise n) (positive : 0 < u)
    (phase s : Nat) : steepest rise u phase start s ≤ steepest rise u 0 start s :=
  (steepest_limited grows).le_steepest (LateBy.zero start _) mono grows positive s

/-! ## Against an exponential -/

theorem sum_exp_le {c : ℝ} (positive : 0 < c) (n : Nat) :
    ∑ s ∈ Finset.range n, Real.exp (c * s) ≤ (Real.exp (c * n) - 1) / c := by
  rw [le_div_iff₀ positive]
  induction n with
  | zero => simp
  | succ n ih =>
    have step : Real.exp (c * n) * (c + 1) ≤ Real.exp (c * (n + 1 : Nat)) := by
      rw [Nat.cast_succ, mul_add c, mul_one c, Real.exp_add]
      exact mul_le_mul_of_nonneg_left (Real.add_one_le_exp c) (Real.exp_pos _).le
    rw [Finset.sum_range_succ, add_mul]
    linarith

/-- Every change multiplies the value by `k` at most. -/
theorem steepest_le_pow {k : ℝ} (nonneg : 0 ≤ k) (factor : ∀ n, (rise n : ℝ) ≤ k * n) (s : Nat) :
    (steepest rise u phase start s : ℝ) ≤ start * k ^ changes u phase s := by
  unfold steepest
  induction changes u phase s with
  | zero => simp
  | succ n ih =>
    rw [Function.iterate_succ_apply']
    calc (rise (rise^[n] start) : ℝ) ≤ k * rise^[n] start := factor _
      _ ≤ k * (start * k ^ n) := mul_le_mul_of_nonneg_left ih nonneg
      _ = start * k ^ (n + 1) := by ring

/-- With a full period before the first change, `s / u` changes at most. -/
theorem changes_le (late : u ≤ phase) (s : Nat) : u * changes u phase s ≤ s := by
  unfold changes
  split
  · omega
  · have whole := Nat.mul_div_le (s - phase) u
    rw [Nat.mul_add]
    omega

/-- The staircase stays below the exponential that grows by `k` in every period. -/
theorem total_steepest_le {k : ℝ} (more : 1 < k) (factor : ∀ n, (rise n : ℝ) ≤ k * n)
    (positive : 0 < u) (late : u ≤ phase) (start n : Nat) :
    (total (steepest rise u phase start) n : ℝ) ≤
      start * ((Real.exp (Real.log k / u * n) - 1) / (Real.log k / u)) := by
  have period : (0 : ℝ) < u := Nat.cast_pos.mpr positive
  have rate : 0 < Real.log k := Real.log_pos more
  have below : ∀ s, (steepest rise u phase start s : ℝ) ≤ start * Real.exp (Real.log k / u * s) := by
    intro s
    refine (steepest_le_pow (by linarith) factor s).trans ?_
    refine mul_le_mul_of_nonneg_left ?_ (Nat.cast_nonneg _)
    rw [← Real.exp_log (pow_pos (by linarith : 0 < k) _), Real.log_pow]
    refine Real.exp_le_exp.mpr ?_
    have counted : (u : ℝ) * changes u phase s ≤ s := by exact_mod_cast changes_le late s
    rw [div_mul_eq_mul_div, le_div_iff₀ period]
    nlinarith
  calc (total (steepest rise u phase start) n : ℝ)
      = ∑ s ∈ Finset.range n, (steepest rise u phase start s : ℝ) := by
        rw [total, Nat.cast_sum]
    _ ≤ ∑ s ∈ Finset.range n, (start : ℝ) * Real.exp (Real.log k / u * s) :=
        Finset.sum_le_sum fun s _ => below s
    _ = start * ∑ s ∈ Finset.range n, Real.exp (Real.log k / u * s) := by
        rw [Finset.mul_sum]
    _ ≤ _ := mul_le_mul_of_nonneg_left (sum_exp_le (div_pos rate period) n) (Nat.cast_nonneg _)

/-! ## Whole periods -/

/-- The sum of `n` whole periods of `u` blocks, each begun by a rise. -/
def periods (rise : Nat → Nat) (u : Nat) : Nat → Nat → Nat
  | 0, _ => 0
  | n + 1, start => u * rise start + periods rise u n (rise start)

theorem periods_succ (n start : Nat) :
    periods rise u (n + 1) start = periods rise u n start + u * rise^[n + 1] start := by
  induction n generalizing start with
  | zero => simp [periods]
  | succ n ih =>
    rw [periods, ih, periods, Nat.add_assoc]
    rfl

/-- Within one period the steepest course is flat. -/
theorem steepest_period {n m : Nat} (within : m ≤ u) :
    ∑ s ∈ Finset.range m, steepest rise u 0 start (u * n + s) = m * rise^[n + 1] start := by
  have flat : ∀ s ∈ Finset.range m, steepest rise u 0 start (u * n + s) = rise^[n + 1] start := by
    intro s inside
    have below : s < u := (Finset.mem_range.mp inside).trans_le within
    rw [steepest, changes, if_neg (Nat.not_lt_zero _), Nat.sub_zero,
      Nat.mul_add_div (Nat.zero_lt_of_lt below), Nat.div_eq_of_lt below, Nat.add_zero, Nat.add_comm]
  rw [Finset.sum_congr rfl flat, Finset.sum_const, Finset.card_range, smul_eq_mul]

/-- The steepest course from block 0 on, summed period by period. -/
theorem total_steepest (rise : Nat → Nat) (start n : Nat) {m : Nat} (within : m ≤ u) :
    total (steepest rise u 0 start) (u * n + m) =
      periods rise u n start + m * rise^[n + 1] start := by
  rw [total, Finset.sum_range_add, steepest_period within]
  congr 1
  induction n with
  | zero => rfl
  | succ n ih =>
    rw [Nat.mul_succ, Finset.sum_range_add, steepest_period (Nat.le_refl u), ih, periods_succ]

end Library
