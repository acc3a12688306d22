import Mathlib.Algebra.Order.Floor.Div
import Mathlib.Data.List.DropRight
import SwarmVolumes.Source.Indexer.View

/-!
# The bucket count bounds the view

Without `since` a view is folded from the last `bucket_count` buckets of days. The
slice that takes them, `dates[-n:]`, is the whole list where `n` is zero.
-/
namespace SwarmVolumes.Guarantees.BucketCount
open Library Source.Indexer

variable {entry : ArtifactEntry} {opts : ViewOptions} {width : Nat} {view : View}

/-- What the count promises of a view: the last days that fit, as many points as they
fill, and only older days for a larger count. -/
structure Bounds (entry : ArtifactEntry) (opts : ViewOptions) (width : Nat) (view : View) : Prop where
  selected : selectedDays entry opts width = (entry.feeVolumeDaily.map DailyFee.date).rtake
    (min entry.feeVolumeDaily.length (opts.bucketCount.toNat * width))
  points : ∀ n ∈ [view.feeVolume.series.length, view.capacity.series.length, view.accounts.series.length],
    n = min entry.feeVolumeDaily.length (opts.bucketCount.toNat * width) ⌈/⌉ width
  bounded : ∀ n ∈ [view.feeVolume.series.length, view.capacity.series.length, view.accounts.series.length],
    (n : Int) ≤ opts.bucketCount
  growing : ∀ more, opts.bucketCount ≤ more →
    selectedDays entry opts width <:+ selectedDays entry { opts with bucketCount := more } width

/-- A slice from a negative index is the last elements, however many there are. -/
theorem sliceFrom_neg {α : Type} (xs : List α) {n : Nat} (nonzero : n ≠ 0) :
    sliceFrom xs (-(n : Int)) = xs.rtake (min xs.length n) := by
  have negative : -(n : Int) < 0 := by omega
  rw [sliceFrom, if_pos negative, List.rtake]
  exact congrArg (xs.drop ·) (by omega)

/-- With a count, the last days that fit. -/
theorem selected_last (unset : opts.since = none) (counted : 0 < opts.bucketCount) (positive : 1 ≤ width) :
    selectedDays entry opts width = (entry.feeVolumeDaily.map DailyFee.date).rtake
      (min entry.feeVolumeDaily.length (opts.bucketCount.toNat * width)) := by
  have product : opts.bucketCount * width = ((opts.bucketCount.toNat * width : Nat) : Int) := by
    rw [Int.natCast_mul, Int.toNat_of_nonneg counted.le]
  have nonzero : opts.bucketCount.toNat * width ≠ 0 := Nat.mul_ne_zero (by omega) (by omega)
  rw [selectedDays, windowDates, unset]
  dsimp only
  rw [product, sliceFrom_neg _ nonzero, List.length_map]

/-- Without one, every day. -/
theorem selected_all (unset : opts.since = none) (none : opts.bucketCount = 0) :
    selectedDays entry opts width = entry.feeVolumeDaily.map DailyFee.date := by
  rw [selectedDays, windowDates, unset]
  dsimp only
  rw [none, Int.zero_mul]
  rfl

theorem rtake_suffix {α : Type} (xs : List α) {m n : Nat} (order : m ≤ n) : xs.rtake m <:+ xs.rtake n := by
  have split : xs.rtake m = (xs.rtake n).drop ((xs.length - m) - (xs.length - n)) := by
    rw [List.rtake, List.rtake, List.drop_drop]
    exact congrArg (xs.drop ·) (by omega)
  rw [split]
  exact List.drop_suffix ..

theorem selected_length (unset : opts.since = none) (counted : 0 < opts.bucketCount) (positive : 1 ≤ width) :
    (selectedDays entry opts width).length =
      min entry.feeVolumeDaily.length (opts.bucketCount.toNat * width) := by
  rw [selected_last unset counted positive, List.rtake, List.length_drop, List.length_map]
  omega

/-- With a count everything promised holds. -/
theorem bounds_of_counted (resolved : Resolved entry opts width view) (unset : opts.since = none)
    (counted : 0 < opts.bucketCount) : Bounds entry opts width view := by
  have positive := width_positive resolved.known
  obtain ⟨fees, capacities, accounts⟩ := resolved.lengths
  have points : pageCount (selectedDays entry opts width).length width =
      min entry.feeVolumeDaily.length (opts.bucketCount.toNat * width) ⌈/⌉ width := by
    rw [selected_length unset counted positive, Nat.ceilDiv_eq_add_pred_div]
    rfl
  have few : pageCount (selectedDays entry opts width).length width ≤ opts.bucketCount.toNat := by
    rw [points, ceilDiv_le_iff_le_mul positive, Nat.mul_comm]
    exact Nat.min_le_right ..
  refine ⟨selected_last unset counted positive, ?_, ?_, fun more order => ?_⟩
  · rw [fees, capacities, accounts]
    simp [points]
  · rw [fees, capacities, accounts]
    simp only [List.mem_cons, List.not_mem_nil, or_false, or_self, forall_eq]
    omega
  · have more_counted : 0 < more := counted.trans_le order
    rw [selected_last unset counted positive]
    have larger : selectedDays entry { opts with bucketCount := more } width = _ :=
      selected_last unset more_counted positive
    rw [larger]
    refine rtake_suffix _ ?_
    have products : opts.bucketCount.toNat * width ≤ more.toNat * width :=
      Nat.mul_le_mul_right _ (by omega)
    dsimp only
    omega

/-- The count bounds the view exactly when it is not zero, or there are no days. -/
theorem bucket_count_bounds (ok : resolveView entry opts = .ok view)
    (unset : opts.since = none) (nonnegative : 0 ≤ opts.bucketCount) :
    ∃ width, bucketWidths.get? opts.bucketWidth = some width ∧
      (Bounds entry opts width view ↔ opts.bucketCount ≠ 0 ∨ entry.feeVolumeDaily = []) := by
  obtain ⟨width, resolved⟩ := resolveView_success ok
  refine ⟨width, resolved.known, ?_⟩
  by_cases counted : opts.bucketCount = 0
  · constructor
    · intro bounds
      have none := bounds.selected
      rw [selected_all unset counted, counted] at none
      have length := congrArg List.length none
      rw [List.rtake, List.length_drop, List.length_map] at length
      simp only [Int.toNat_zero, Nat.zero_mul, Nat.min_zero] at length
      exact .inr (List.eq_nil_of_length_eq_zero (by omega))
    · rintro (nonzero | empty)
      · exact absurd counted nonzero
      · have none : selectedDays entry opts width = [] := by
          rw [selected_all unset counted, empty]
          rfl
        obtain ⟨fees, capacities, accounts⟩ := resolved.lengths
        have points : pageCount ([] : List Nat).length width = 0 := by
          have positive := width_positive resolved.known
          exact Nat.div_eq_of_lt (by simp only [List.length_nil]; omega)
        rw [none, points] at fees capacities accounts
        refine ⟨?_, ?_, ?_, fun more order => ?_⟩
        · rw [none, empty]
          rfl
        · rw [fees, capacities, accounts, empty]
          simp
        · rw [fees, capacities, accounts]
          simpa using nonnegative
        · rw [none]
          exact List.nil_suffix
  · exact iff_of_true (bounds_of_counted resolved unset (by omega)) (.inl counted)

/-! ## Two days -/

/-- An entry of two days. -/
def sampleEntry : ArtifactEntry where
  label := "sample"
  chainId := 100
  registry := "0x1"
  registryVersion := "v2"
  genesisTs := 0
  asOf := ⟨10, 100000⟩
  fiatCurrencies := []
  extra := []
  snapshot := ⟨3, ⟨1, 4096, 100⟩, ⟨1, []⟩⟩
  feeVolumeDaily := [⟨0, 1⟩, ⟨1, 2⟩]
  capacityDaily := [⟨0, 1, 4096, 100⟩, ⟨1, 1, 4096, 100⟩]
  accountsDaily := [⟨0, 1⟩, ⟨1, 1⟩]
  priceDaily := []

/-- The default view with this many buckets. -/
def sampleOptions (bucketCount : Int) : ViewOptions := { ViewOptions.standard with bucketCount }

theorem zero_count_shows_all : ∃ view,
    resolveView sampleEntry (sampleOptions 0) = .ok view ∧
      ¬ Bounds sampleEntry (sampleOptions 0) 1 view := by
  have accepted : (resolveView sampleEntry (sampleOptions 0)).isOk = true := by
    decide +kernel
  obtain ⟨view, resolved⟩ := success_of_isOk accepted
  refine ⟨view, resolved, fun bounds => ?_⟩
  have all : selectedDays sampleEntry (sampleOptions 0) 1 = [0, 1] := rfl
  have none := all.symm.trans bounds.selected
  cases none

theorem bucket_count_bounds_sample : ∃ view,
    resolveView sampleEntry (sampleOptions 1) = .ok view ∧
      Bounds sampleEntry (sampleOptions 1) 1 view := by
  have accepted : (resolveView sampleEntry (sampleOptions 1)).isOk = true := by
    decide +kernel
  obtain ⟨view, resolved⟩ := success_of_isOk accepted
  obtain ⟨width, known, precise⟩ := bucket_count_bounds resolved rfl (by decide)
  obtain rfl : 1 = width := Option.some.inj known
  exact ⟨view, resolved, precise.mpr (.inl (by decide))⟩

end SwarmVolumes.Guarantees.BucketCount
