import Mathlib.Tactic.Common

/-!
# Bisection

The least natural number of a window at which a predicate holds, found by halving
the window, with the points probed on the way.
-/
namespace Library

/-- The points probed and the point found, from the window `[lo, hi]`. -/
def bisect (holds : Nat → Bool) (lo hi : Nat) : List Nat × Nat :=
  if lo < hi then
    let mid := (lo + hi) / 2
    let found := if holds mid then bisect holds lo mid else bisect holds (mid + 1) hi
    (mid :: found.1, found.2)
  else ([], lo)
termination_by hi - lo

/-- The predicate holds from `g` on, as far as `hi`. -/
def HoldsFrom (holds : Nat → Bool) (g hi : Nat) : Prop := ∀ p ≤ hi, holds p = true ↔ g ≤ p

variable {holds : Nat → Bool} {lo hi g : Nat}

/-- No probe leaves the window. -/
theorem bisect_probes : ∀ p ∈ (bisect holds lo hi).1, lo ≤ p ∧ p < hi := by
  fun_induction bisect holds lo hi with
  | case1 lo hi window mid found lower upper =>
    have middle : mid = (lo + hi) / 2 := rfl
    refine List.forall_mem_cons.mpr ⟨⟨by omega, by omega⟩, fun p member => ?_⟩
    unfold found at member
    split at member
    · obtain ⟨above, below⟩ := lower p member
      exact ⟨above, by omega⟩
    · obtain ⟨above, below⟩ := upper p member
      exact ⟨by omega, below⟩
  | case2 lo hi closed => nofun

/-- The window always contains the first point, and closes on it. -/
theorem bisect_eq (from_g : HoldsFrom holds g hi) (above : lo ≤ g) (below : g ≤ hi) :
    (bisect holds lo hi).2 = g := by
  fun_induction bisect holds lo hi with
  | case1 lo hi window mid found lower upper =>
    have middle : mid = (lo + hi) / 2 := rfl
    have probed := from_g mid (by omega)
    unfold found
    split
    · have reached : g ≤ mid := probed.mp ‹_›
      exact lower (fun p inside => from_g p (by omega)) above reached
    · have past : ¬ g ≤ mid := fun reached => ‹¬ holds mid = true› (probed.mpr reached)
      exact upper from_g (by omega) below
  | case2 lo hi closed => exact Nat.le_antisymm above (by omega)

end Library
