import Mathlib.Data.List.Basic

/-!
# Labelled traces

Finite runs of a labelled transition relation, listed in chronological order.
A trace carries the labels of every step, so a property of a whole history
(what happened, in which order, since when) is a property of its label list;
a property of the state alone is the special case `Trace.invariant`.
-/
namespace Library

variable {σ ℓ : Type*}

/-- `Trace step s₀ ls s`: from `s₀`, steps labelled `ls` in this order lead to `s`. -/
inductive Trace (step : σ → ℓ → σ → Prop) (s₀ : σ) : List ℓ → σ → Prop
  | nil : Trace step s₀ [] s₀
  | snoc {ls : List ℓ} {s s' : σ} {l : ℓ} (before : Trace step s₀ ls s) (last : step s l s') :
      Trace step s₀ (ls ++ [l]) s'

namespace Trace

variable {step : σ → ℓ → σ → Prop} {s₀ s s' : σ} {ls ks : List ℓ} {l : ℓ}

/-- The history rule: what holds of the empty history and survives one more
step holds of every history together with the state it leads to. -/
theorem history (J : List ℓ → σ → Prop) (start : J [] s₀)
    (kept : ∀ ls s l s', Trace step s₀ ls s → step s l s' → J ls s → J (ls ++ [l]) s')
    (run : Trace step s₀ ls s) : J ls s := by
  induction run with
  | nil => exact start
  | snoc before last ih => exact kept _ _ _ _ before last ih

/-- The invariant rule, for properties of the state alone. -/
theorem invariant (I : σ → Prop) (start : I s₀)
    (kept : ∀ s l s', step s l s' → I s → I s') (run : Trace step s₀ ls s) : I s :=
  run.history (fun _ s => I s) start fun _ s l s' _ taken held => kept s l s' taken held

theorem single (taken : step s l s') : Trace step s [l] s' :=
  snoc nil taken

theorem append (first : Trace step s₀ ls s) (second : Trace step s ks s') :
    Trace step s₀ (ls ++ ks) s' := by
  induction second with
  | nil => simpa using first
  | snoc before last ih =>
    rw [← List.append_assoc]
    exact snoc ih last

theorem cons (taken : step s₀ l s) (rest : Trace step s ls s') : Trace step s₀ (l :: ls) s' := by
  simpa using (single taken).append rest

/-- A trace over a concatenation passes through a state between its halves. -/
theorem split (run : Trace step s₀ (ls ++ ks) s) :
    ∃ m, Trace step s₀ ls m ∧ Trace step m ks s := by
  generalize same : ls ++ ks = all at run
  induction run generalizing ks with
  | nil =>
    obtain ⟨rfl, rfl⟩ := List.append_eq_nil_iff.mp same
    exact ⟨s₀, nil, nil⟩
  | @snoc all m s' l before last ih =>
    rcases List.eq_nil_or_concat ks with rfl | ⟨ks, k, rfl⟩
    · rw [List.append_nil] at same
      subst same
      exact ⟨s', snoc before last, nil⟩
    · rw [List.concat_eq_append, ← List.append_assoc] at same
      obtain ⟨shorter, label⟩ := List.append_inj' same rfl
      obtain ⟨rfl⟩ : k = l := by simpa using label
      obtain ⟨mid, first, second⟩ := ih shorter
      exact ⟨mid, first, by simpa using snoc second last⟩

theorem nil_eq (run : Trace step s₀ [] s) : s = s₀ := by
  generalize same : ([] : List ℓ) = all at run
  cases run with
  | nil => rfl
  | snoc before last => simp at same

theorem uncons (run : Trace step s₀ (l :: ls) s') : ∃ s, step s₀ l s ∧ Trace step s ls s' := by
  have parted : Trace step s₀ ([l] ++ ls) s' := run
  obtain ⟨mid, first, rest⟩ := parted.split
  refine ⟨mid, ?_, rest⟩
  generalize same : [l] = all at first
  cases first with
  | nil => simp at same
  | @snoc earlier s _ k before last =>
    have parted : [] ++ [l] = earlier ++ [k] := same
    obtain ⟨shorter, label⟩ := List.append_inj' parted rfl
    subst shorter
    obtain ⟨rfl⟩ : l = k := by simpa using label
    rwa [nil_eq before] at last

/-- The step at one place of a history, with what came before and after it. -/
theorem at_label {pre post : List ℓ} (run : Trace step s₀ (pre ++ l :: post) s) :
    ∃ a b, Trace step s₀ pre a ∧ step a l b ∧ Trace step b post s := by
  obtain ⟨a, first, rest⟩ := run.split
  obtain ⟨b, taken, rest⟩ := rest.uncons
  exact ⟨a, b, first, taken, rest⟩

theorem mono {step' : σ → ℓ → σ → Prop} (weaker : ∀ s l s', step s l s' → step' s l s')
    (run : Trace step s₀ ls s) : Trace step' s₀ ls s := by
  induction run with
  | nil => exact nil
  | snoc before last ih => exact snoc ih (weaker _ _ _ last)

/-- A property of every label may be assumed at every step. -/
theorem restrict {Q : ℓ → Prop} (run : Trace step s₀ ls s) (all : ∀ l ∈ ls, Q l) :
    Trace (fun s l s' => step s l s' ∧ Q l) s₀ ls s := by
  induction run with
  | nil => exact nil
  | @snoc ls s s' l before last ih =>
    exact snoc (ih fun k member => all k (by simp [member])) ⟨last, all l (by simp)⟩

end Trace
end Library
