import SwarmVolumes.Library.Word
import Mathlib.Data.Nat.Basic
import Mathlib.Tactic.Common

/-!
# ERC-20 tokens and payments passed through an intermediary

A token is an interface over an abstract state: two views and two calls, each
of which may revert (`none`) or return a flag. `Standard` is what the calls do
to balances and allowances when they return `true`.

A contract that collects `amount` from a payer, approves a destination for it
and lets the destination pull it holds nothing afterwards and leaves no
allowance behind: `PassThrough.settled`.
-/
namespace Library.Erc20

variable {A T L : Type*} [DecidableEq A]

/-- The interface; `now` is the time a call runs at, `L` the type of its logs. -/
structure Token (A T L : Type*) where
  balanceOf : T → A → Nat
  allowance : T → A → A → Nat
  transferFrom : (now : Nat) → T → (sender src dst : A) → (amount : Nat) → Option (Bool × T × List L)
  approve : (now : Nat) → T → (sender spender : A) → (amount : Nat) → Option (Bool × T × List L)

/-- Balances after `n` moved from `src` to `dst`. -/
def moved (balances : A → Nat) (src dst : A) (n : Nat) (a : A) : Nat :=
  if a = src then balances a - n else if a = dst then balances a + n else balances a

/-- An allowance after `n` of it was spent; the largest word never runs out. -/
def spent (allowed n : Nat) : Nat := if allowed = Word.unlimited then allowed else allowed - n

theorem spent_le (allowed n : Nat) : spent allowed n ≤ allowed := by
  unfold spent
  split
  · exact Nat.le_refl _
  · exact Nat.sub_le _ _

theorem spent_unlimited (n : Nat) : spent Word.unlimited n = Word.unlimited := if_pos rfl

/-- Balances and allowances after a call that returned `true`. A token may skip
the allowance of an account that spends its own balance. -/
structure Token.Standard (token : Token A T L) : Prop where
  moves : ∀ {now t sender src dst n t' logs}, src ≠ dst →
    token.transferFrom now t sender src dst n = some (true, t', logs) →
    n ≤ token.balanceOf t src ∧ ∀ a, token.balanceOf t' a = moved (token.balanceOf t) src dst n a
  spends : ∀ {now t sender src dst n t' logs}, sender ≠ src →
    token.transferFrom now t sender src dst n = some (true, t', logs) →
    n ≤ token.allowance t src sender ∧ ∀ o s, token.allowance t' o s =
      if o = src ∧ s = sender then spent (token.allowance t src sender) n else token.allowance t o s
  keeps : ∀ {now t sender spender n t' logs},
    token.approve now t sender spender n = some (true, t', logs) →
    ∀ a, token.balanceOf t' a = token.balanceOf t a
  approves : ∀ {now t sender spender n t' logs},
    token.approve now t sender spender n = some (true, t', logs) →
    ∀ o s, token.allowance t' o s =
      if o = sender ∧ s = spender then n else token.allowance t o s

/-- `via` pulls `amount` from `payer`, approves `dst` for it, and `dst` pulls
`due` from `via`. -/
def PassThrough (token : Token A T L) (now : Nat) (t : T) (payer via dst : A) (amount due : Nat)
    (t' : T) : Prop :=
  ∃ t₁ t₂ pulled approved forwarded,
    token.transferFrom now t via payer via amount = some (true, t₁, pulled) ∧
    token.approve now t₁ via dst amount = some (true, t₂, approved) ∧
    token.transferFrom now t₂ dst via dst due = some (true, t', forwarded)

namespace PassThrough

variable {token : Token A T L} {now amount due : Nat} {t t' : T} {payer via dst : A}

/-- Balances after the three calls, whatever the destination pulled. -/
theorem balances (standard : token.Standard) (fromPayer : payer ≠ via) (toDst : via ≠ dst)
    (paid : PassThrough token now t payer via dst amount due t') :
    amount ≤ token.balanceOf t payer ∧
    ∀ a, token.balanceOf t' a = moved (moved (token.balanceOf t) payer via amount) via dst due a := by
  obtain ⟨t₁, t₂, _, _, _, pulled, approved, forwarded⟩ := paid
  obtain ⟨funded, first⟩ := standard.moves fromPayer pulled
  obtain ⟨_, second⟩ := standard.moves toDst forwarded
  have same := standard.keeps approved
  refine ⟨funded, fun a => ?_⟩
  rw [second a]
  simp only [moved, same, first]

/-- Allowances after the three calls: the payer's to `via` is spent, the one
`via` gave `dst` is what is left of `amount`, and no other changes. -/
theorem allowances (standard : token.Standard) (fromPayer : payer ≠ via) (toDst : via ≠ dst)
    (paid : PassThrough token now t payer via dst amount due t') (o s : A) :
    token.allowance t' o s =
      if o = via ∧ s = dst then spent amount due
      else if o = payer ∧ s = via then spent (token.allowance t payer via) amount
      else token.allowance t o s := by
  obtain ⟨t₁, t₂, _, _, _, pulled, approved, forwarded⟩ := paid
  have first := (standard.spends fromPayer.symm pulled).2
  have second := standard.approves approved
  have third := (standard.spends toDst.symm forwarded).2
  rw [third o s]
  simp only [second, and_self, if_true, first]
  split
  · rfl
  · rfl

/-- Passing an amount on in full: the payer is charged exactly it, the
destination receives exactly it, and the intermediary keeps neither a balance
nor an allowance. -/
theorem settled (standard : token.Standard) (fromPayer : payer ≠ via) (toDst : via ≠ dst)
    (apart : payer ≠ dst) (finite : amount ≠ Word.unlimited)
    (paid : PassThrough token now t payer via dst amount amount t') :
    amount ≤ token.balanceOf t payer ∧
    token.balanceOf t' payer = token.balanceOf t payer - amount ∧
    token.balanceOf t' dst = token.balanceOf t dst + amount ∧
    (∀ a, a ≠ payer → a ≠ dst → token.balanceOf t' a = token.balanceOf t a) ∧
    token.allowance t' via dst = 0 := by
  obtain ⟨funded, after⟩ := paid.balances standard fromPayer toDst
  refine ⟨funded, ?_, ?_, ?_, ?_⟩
  · simp [after, moved, fromPayer, apart]
  · simp [after, moved, toDst.symm, apart.symm]
  · intro a notPayer notDst
    by_cases same : a = via
    · subst same
      simp [after, moved, notPayer]
    · simp [after, moved, notPayer, notDst, same]
  · simp [paid.allowances standard fromPayer toDst, spent, finite]

end PassThrough
end Library.Erc20
