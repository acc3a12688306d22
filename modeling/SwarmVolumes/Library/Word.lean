import Mathlib.Algebra.Order.Ring.Nat
import Mathlib.Algebra.Ring.Parity
import Mathlib.Tactic.Ring

/-!
# 256-bit words over the naturals

Checked addition, subtraction and multiplication (`none` where the machine
traps) and the left shift, which truncates silently. A word is a natural
number, so that exactness can be stated without a coercion.
-/
namespace Library.Word

def modulus : Nat := 2 ^ 256

/-- The largest word. -/
def unlimited : Nat := modulus - 1

def add? (a b : Nat) : Option Nat := if a + b < modulus then some (a + b) else none
def sub? (a b : Nat) : Option Nat := if b ≤ a then some (a - b) else none
def mul? (a b : Nat) : Option Nat := if a * b < modulus then some (a * b) else none

/-- `x << k`: the bits that leave the word are lost. -/
def shl (x k : Nat) : Nat := (x <<< k) % modulus

theorem add?_eq_some {a b c : Nat} : add? a b = some c ↔ a + b < modulus ∧ a + b = c := by
  simp [add?]

theorem sub?_eq_some {a b c : Nat} : sub? a b = some c ↔ b ≤ a ∧ a - b = c := by
  simp [sub?]

theorem mul?_eq_some {a b c : Nat} : mul? a b = some c ↔ a * b < modulus ∧ a * b = c := by
  simp [mul?]

theorem shl_lt (x k : Nat) : shl x k < modulus := Nat.mod_lt _ (by decide)

theorem shl_le (x k : Nat) : shl x k ≤ x * 2 ^ k := by
  rw [shl, Nat.shiftLeft_eq]
  exact Nat.mod_le _ _

/-- A shift that does not leave the word is the exact product. -/
theorem shl_exact {x k : Nat} (fits : x * 2 ^ k < modulus) : shl x k = x * 2 ^ k := by
  rw [shl, Nat.shiftLeft_eq, Nat.mod_eq_of_lt fits]

/-- Two 64-bit factors never trap. -/
theorem uint64_mul_lt (a b : UInt64) : a.toNat * b.toNat < 2 ^ 128 := by
  have ha := a.toNat_lt
  have hb := b.toNat_lt
  calc a.toNat * b.toNat < 2 ^ 64 * 2 ^ 64 := Nat.mul_lt_mul'' ha hb
    _ = 2 ^ 128 := by norm_num

theorem uint64_mul? (a b : UInt64) : mul? a.toNat b.toNat = some (a.toNat * b.toNat) :=
  mul?_eq_some.mpr ⟨(uint64_mul_lt a b).trans (by decide), rfl⟩

/-- The largest word is odd, so a multiple of a power of two reaches it only
through a factor that is itself the largest word. -/
theorem mul_two_pow_ne_unlimited {x : Nat} (small : x < unlimited) (k : Nat) :
    x * 2 ^ k ≠ unlimited := by
  intro same
  cases k with
  | zero => omega
  | succ k =>
    have even : unlimited % 2 = 0 := by
      rw [← same, pow_succ, ← mul_assoc]
      exact Nat.mul_mod_left _ 2
    exact absurd even (by decide)

end Library.Word
