import Mathlib.Data.List.Basic

/-!
# Timelines

A list whose entries carry a time that never goes back. What lies up to a cutoff
is then a first part of the list, whether one filters it or stops at the first
entry past it.
-/
namespace Library

variable {α β : Type*} {time : α → Nat} {as : List α}

/-- The entries up to a cutoff. -/
def before (time : α → Nat) (cutoff : Nat) (as : List α) : List α :=
  as.filter fun a => time a ≤ cutoff

def after (time : α → Nat) (cutoff : Nat) (as : List α) : List α :=
  as.filter fun a => cutoff < time a

theorem takeWhile_eq_before (ordered : as.Pairwise fun a b => time a ≤ time b) (cutoff : Nat) :
    as.takeWhile (fun a => time a ≤ cutoff) = before time cutoff as := by
  unfold before
  induction as with
  | nil => rfl
  | cons a as ih =>
    obtain ⟨first, rest⟩ := List.pairwise_cons.mp ordered
    by_cases early : time a ≤ cutoff
    · simp [early, ih rest]
    · have late : ∀ b ∈ as, ¬ time b ≤ cutoff := fun b member below =>
        early (Nat.le_trans (first b member) below)
      simpa [early] using late

theorem before_append_after (ordered : as.Pairwise fun a b => time a ≤ time b) (cutoff : Nat) :
    before time cutoff as ++ after time cutoff as = as := by
  induction as with
  | nil => rfl
  | cons a as ih =>
    obtain ⟨first, rest⟩ := List.pairwise_cons.mp ordered
    by_cases early : time a ≤ cutoff
    · simpa [before, after, early, Nat.not_lt.mpr early] using ih rest
    · have late : ∀ b ∈ as, cutoff < time b := fun b member =>
        Nat.lt_of_lt_of_le (Nat.not_le.mp early) (first b member)
      have none : before time cutoff as = [] :=
        List.filter_eq_nil_iff.mpr fun b member => by simpa using late b member
      have all : after time cutoff as = as :=
        List.filter_eq_self.mpr fun b member => by simpa using late b member
      rw [before, List.filter_cons_of_neg (by simpa using early)]
      rw [before] at none
      rw [none, after, List.filter_cons_of_pos (by simpa using early), List.nil_append]
      exact congrArg _ all

/-- The earlier of two cutoffs decides. -/
theorem before_before {cutoff cutoff' : Nat} (earlier : cutoff ≤ cutoff') :
    before time cutoff (before time cutoff' as) = before time cutoff as := by
  unfold before
  rw [List.filter_filter]
  refine List.filter_congr fun a _ => ?_
  rw [← Bool.decide_and]
  exact decide_eq_decide.mpr (by omega)

theorem before_map {time' : β → Nat} (f : α → β) (cutoff : Nat) :
    (before (fun a => time' (f a)) cutoff as).map f = before time' cutoff (as.map f) := by
  unfold before
  rw [List.filter_map]
  rfl

/-- Replacing entries by others of the same time. -/
theorem before_filterMap {time' : β → Nat} {f : α → Option β}
    (stamped : ∀ a b, f a = some b → time' b = time a) (cutoff : Nat) :
    before time' cutoff (as.filterMap f) = (before time cutoff as).filterMap f := by
  unfold before
  rw [List.filter_filterMap, List.filterMap_filter]
  refine List.filterMap_congr fun a _ => ?_
  cases found : f a with
  | none => simp
  | some b =>
    have same := stamped a b found
    by_cases early : time a ≤ cutoff
    · simp [same, early]
    · simp [same, early, Nat.not_le.mp early]

/-- Expanding entries into others of the same time. -/
theorem before_flatMap {time' : β → Nat} {f : α → List β}
    (stamped : ∀ a ∈ as, ∀ b ∈ f a, time' b = time a) (cutoff : Nat) :
    before time' cutoff (as.flatMap f) = (before time cutoff as).flatMap f := by
  induction as with
  | nil => rfl
  | cons a as ih =>
    have here := stamped a (List.mem_cons_self ..)
    have rest := ih fun a' member => stamped a' (List.mem_cons_of_mem _ member)
    unfold before at rest ⊢
    rw [List.flatMap_cons, List.filter_append, rest]
    by_cases early : time a ≤ cutoff
    · have all : (f a).filter (fun b => time' b ≤ cutoff) = f a :=
        List.filter_eq_self.mpr fun b member => by simpa [here b member] using early
      rw [all, List.filter_cons_of_pos (by simpa using early), List.flatMap_cons]
    · have none : (f a).filter (fun b => time' b ≤ cutoff) = [] :=
        List.filter_eq_nil_iff.mpr fun b member => by simpa [here b member] using early
      rw [none, List.filter_cons_of_neg (by simpa using early), List.nil_append]

end Library
