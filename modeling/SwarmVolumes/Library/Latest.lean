import Mathlib.Data.List.Induction

/-!
# The latest value of a history

A register that some entries of a history set and no other touches holds what
the latest of them set. `latest set es` reads it off the history, and
`latest_eq_some` locates the entry it comes from.
-/
namespace Library

variable {α β : Type*} {set : α → Option β} {es : List α} {v : β}

/-- What the last entry with `set e = some v` set. -/
def latest (set : α → Option β) (es : List α) : Option β := (es.filterMap set).getLast?

@[simp] theorem latest_nil : latest set [] = none := rfl

theorem latest_snoc (e : α) : latest set (es ++ [e]) = (set e).or (latest set es) := by
  unfold latest
  rw [List.filterMap_append]
  cases same : set e with
  | none => simp [same]
  | some v => simp [same]

/-- A register keeps its value where an entry sets none. -/
theorem latest_getD_snoc (e : α) (init : β) :
    (latest set (es ++ [e])).getD init = (set e).getD ((latest set es).getD init) := by
  rw [latest_snoc]
  cases set e with
  | none => rfl
  | some v => rfl

theorem latest_eq_none : latest set es = none ↔ ∀ e ∈ es, set e = none := by
  rw [latest, List.getLast?_eq_none_iff, List.filterMap_eq_nil_iff]

theorem latest_append (es es' : List α) : latest set (es ++ es') = (latest set es').or (latest set es) := by
  rw [latest, latest, latest, List.filterMap_append, List.getLast?_append]

/-- The value comes from an entry after which nothing sets it. -/
theorem latest_eq_some : latest set es = some v ↔
    ∃ a c b, es = a ++ c :: b ∧ set c = some v ∧ ∀ x ∈ b, set x = none := by
  induction es using List.reverseRecOn with
  | nil => simp
  | append_singleton es e ih =>
    rw [latest_snoc]
    constructor
    · intro found
      cases here : set e with
      | some u =>
        rw [here, Option.some_or] at found
        exact ⟨es, e, [], rfl, here.trans found, by simp⟩
      | none =>
        rw [here, Option.none_or] at found
        obtain ⟨a, c, b, rfl, sets, quiet⟩ := ih.mp found
        refine ⟨a, c, b ++ [e], by simp, sets, fun x member => ?_⟩
        rcases List.mem_append.mp member with early | last
        · exact quiet x early
        · rw [List.mem_singleton.mp last, here]
    · rintro ⟨a, c, b, same, sets, quiet⟩
      rcases List.eq_nil_or_concat b with rfl | ⟨b, last, rfl⟩
      · obtain ⟨_, label⟩ := List.append_inj' same rfl
        obtain rfl : e = c := by simpa using label
        rw [sets, Option.some_or]
      · rw [List.concat_eq_append, ← List.cons_append, ← List.append_assoc] at same
        obtain ⟨shorter, label⟩ := List.append_inj' same rfl
        obtain rfl : e = last := by simpa using label
        rw [quiet e (by simp), Option.none_or]
        exact ih.mpr ⟨a, c, b, shorter, sets, fun x member => quiet x (by simp [member])⟩

end Library
