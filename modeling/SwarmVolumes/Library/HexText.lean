import Mathlib.Algebra.Order.Ring.Nat
import Mathlib.Data.List.Induction
import SwarmVolumes.Library.Json

/-!
# Hexadecimal texts

A text of hexadecimal digits, in either letter case, and the number it spells. In
lower case the text is the digits of the number (`digits_value`), and any writing of
a number that is padded with zeros is its digits (`leftpad_toDigits`).
-/
namespace Library.Hex

def isHexDigit (c : Char) : Bool := (Json.hexDigit? c).isSome

/-- The number digits spell. -/
def value (ds : List Char) : Nat := ds.foldl (fun n d => 16 * n + (Json.hexDigit? d).getD 0) 0

theorem hexDigit_spec {c : Char} (hex : isHexDigit c = true) :
    ∃ n < 16, Json.hexDigit? c = some n ∧ Nat.digitChar n = c.toLower := by
  obtain ⟨n, found⟩ := Option.isSome_iff_exists.mp hex
  unfold Json.hexDigit? at found
  have spelled := List.find?_some found
  exact ⟨n, List.mem_range.mp (List.mem_of_find?_eq_some found), found, of_decide_eq_true spelled⟩

theorem value_snoc (ds : List Char) (d : Char) :
    value (ds ++ [d]) = 16 * value ds + (Json.hexDigit? d).getD 0 := by
  rw [value, List.foldl_append]
  rfl

theorem value_lt {ds : List Char} (hex : ∀ d ∈ ds, isHexDigit d = true) : value ds < 16 ^ ds.length := by
  induction ds using List.reverseRecOn with
  | nil => decide
  | append_singleton ds d ih =>
    obtain ⟨n, small, found, _⟩ := hexDigit_spec (hex d (by simp))
    have rest := ih fun d' member => hex d' (List.mem_append_left _ member)
    rw [value_snoc, found, Option.getD_some, List.length_append, List.length_singleton, Nat.pow_succ]
    omega

/-- The digits of the number are the text in lower case. -/
theorem digits_value {ds : List Char} (hex : ∀ d ∈ ds, isHexDigit d = true) :
    digits ds.length (value ds) = ds.map Char.toLower := by
  induction ds using List.reverseRecOn with
  | nil => rfl
  | append_singleton ds d ih =>
    obtain ⟨n, small, found, spelled⟩ := hexDigit_spec (hex d (by simp))
    have rest := ih fun d' member => hex d' (List.mem_append_left _ member)
    have quotient : (16 * value ds + n) / 16 = value ds := by omega
    have remainder : (16 * value ds + n) % 16 = n := by omega
    rw [value_snoc, found, Option.getD_some, List.length_append, List.length_singleton, digits, quotient,
      remainder, rest, spelled, List.map_append]
    rfl

theorem length_digits (k n : Nat) : (digits k n).length = k := by
  induction k generalizing n with
  | zero => rfl
  | succ k ih => rw [digits, List.length_append, ih, List.length_singleton]

theorem digits_zero (k : Nat) : digits k 0 = List.replicate k '0' := by
  induction k with
  | zero => rfl
  | succ k ih =>
    rw [digits, Nat.zero_div, ih]
    exact List.replicate_succ'.symm

/-- Digits before those a number needs are zeros. -/
theorem digits_add {k n : Nat} (small : n < 16 ^ k) (more : Nat) :
    digits (more + k) n = List.replicate more '0' ++ digits k n := by
  induction k generalizing n with
  | zero =>
    obtain rfl : n = 0 := by simpa using small
    rw [Nat.add_zero, digits_zero, digits, List.append_nil]
  | succ k ih =>
    rw [Nat.pow_succ] at small
    rw [← Nat.add_assoc, digits, digits, ih (by omega), List.append_assoc]

theorem digits_toDigits (n : Nat) : digits (Nat.toDigits 16 n).length n = Nat.toDigits 16 n := by
  induction n using Nat.strongRecOn with
  | ind n ih =>
    rw [Nat.toDigits_eq_if (by decide)]
    split
    · rename_i small
      rw [List.length_singleton, digits, digits, List.nil_append, Nat.mod_eq_of_lt small]
    · rename_i large
      rw [List.length_append, List.length_singleton, digits, ih (n / 16) (by omega)]

theorem leftpad_digits {k width n : Nat} (small : n < 16 ^ k) (fits : k ≤ width) :
    (digits k n).leftpad width '0' = digits width n := by
  rw [List.leftpad, length_digits, ← digits_add small, Nat.sub_add_cancel fits]

/-- Zeros before the digits a number is written with. -/
theorem leftpad_toDigits {width n : Nat} (positive : 0 < width) (small : n < 16 ^ width) :
    (Nat.toDigits 16 n).leftpad width '0' = digits width n := by
  have fits := (Nat.length_toDigits_le_iff (by decide : 1 < 16) positive).mpr small
  have enough : n < 16 ^ (Nat.toDigits 16 n).length :=
    (Nat.length_toDigits_le_iff (by decide) Nat.length_toDigits_pos).mp (Nat.le_refl _)
  have padded := leftpad_digits enough fits
  rwa [digits_toDigits] at padded

end Library.Hex
