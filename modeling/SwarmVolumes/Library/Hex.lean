import Mathlib.Algebra.Order.Ring.Nat
import Mathlib.Data.List.Basic
import Mathlib.Tactic.Common

/-!
# Hexadecimal words

A machine word as a `0x` string of fixed width, which determines the word.
-/
namespace Library.Hex

/-- The last `k` hexadecimal digits, most significant first. -/
def digits : Nat → Nat → List Char
  | 0, _ => []
  | k + 1, n => digits k (n / 16) ++ [Nat.digitChar (n % 16)]

def render {bits : Nat} (word : BitVec bits) : String :=
  "0x" ++ String.ofList (digits (bits / 4) word.toNat)

theorem digitChar_injective {m n : Nat} (first : m < 16) (second : n < 16)
    (same : Nat.digitChar m = Nat.digitChar n) : m = n := by
  have all : ∀ a < 16, ∀ b < 16, Nat.digitChar a = Nat.digitChar b → a = b := by decide
  exact all m first n second same

theorem digits_injective {k m n : Nat} (first : m < 16 ^ k) (second : n < 16 ^ k)
    (same : digits k m = digits k n) : m = n := by
  induction k generalizing m n with
  | zero =>
    rw [Nat.pow_zero] at first second
    omega
  | succ k ih =>
    rw [Nat.pow_succ] at first second
    obtain ⟨high, low⟩ := List.append_inj' same rfl
    have quotient : m / 16 = n / 16 := ih (by omega) (by omega) high
    have remainder : m % 16 = n % 16 :=
      digitChar_injective (Nat.mod_lt _ (by decide)) (Nat.mod_lt _ (by decide))
        (List.singleton_injective low)
    rw [← Nat.div_add_mod m 16, ← Nat.div_add_mod n 16, quotient, remainder]

theorem render_injective {bits : Nat} (whole : 4 ∣ bits) :
    Function.Injective (render : BitVec bits → String) := by
  intro a b same
  have bound : (16 : Nat) ^ (bits / 4) = 2 ^ bits := by
    conv_rhs => rw [← Nat.mul_div_cancel' whole]
    rw [Nat.pow_mul]
  have digits_eq : digits (bits / 4) a.toNat = digits (bits / 4) b.toNat :=
    String.ofList_injective ((String.append_right_inj "0x").mp same)
  exact BitVec.eq_of_toNat_eq
    (digits_injective (bound ▸ a.isLt) (bound ▸ b.isLt) digits_eq)

end Library.Hex
