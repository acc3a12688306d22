import Mathlib.Data.List.Nodup
import Mathlib.Logic.Function.Basic

/-!
# Unordered lists with stored positions

A list whose elements know their own position can drop any of them in constant
time: the last element moves into the freed place. `Indexed` is the invariant
that makes this sound, `push` and `swapPop` its two updates.
-/
namespace Library

variable {α : Type*} {ids : List α} {pos pos' : α → Nat} {a b last : α} {i j : Nat}

/-- Every element is stored where its position says. -/
def Indexed (ids : List α) (pos : α → Nat) : Prop := ∀ i a, ids[i]? = some a → pos a = i

/-- The last element moves into place `i`, and the list gets shorter. -/
def swapPop (ids : List α) (i : Nat) (last : α) : List α := (ids.set i last).dropLast

namespace Indexed

theorem nil : Indexed ([] : List α) pos := by
  intro i a found
  simp at found

theorem get (indexed : Indexed ids pos) (member : a ∈ ids) : ids[pos a]? = some a := by
  obtain ⟨i, found⟩ := List.mem_iff_getElem?.mp member
  rwa [indexed i a found]

theorem lt_length (indexed : Indexed ids pos) (member : a ∈ ids) : pos a < ids.length :=
  (List.getElem?_eq_some_iff.mp (indexed.get member)).1

theorem nodup (indexed : Indexed ids pos) : ids.Nodup := by
  rw [List.nodup_iff_getElem?_ne_getElem?]
  intro i j before bound same
  have found : ids[j]? = some ids[j] := List.getElem?_eq_getElem bound
  have first := indexed i _ (same.trans found)
  have second := indexed j _ found
  omega

/-- Only the positions of the elements matter. -/
theorem congr (indexed : Indexed ids pos) (same : ∀ a ∈ ids, pos' a = pos a) :
    Indexed ids pos' := by
  intro i a found
  rw [same a (List.mem_of_getElem? found)]
  exact indexed i a found

theorem push (indexed : Indexed ids pos) (new : pos' a = ids.length)
    (old : ∀ b ∈ ids, pos' b = pos b) : Indexed (ids ++ [a]) pos' := by
  intro i b found
  rcases Nat.lt_or_ge i ids.length with inside | outside
  · rw [List.getElem?_append_left inside] at found
    rw [old b (List.mem_of_getElem? found)]
    exact indexed i b found
  · rw [List.getElem?_append_right outside] at found
    obtain ⟨at_end, same⟩ : i - ids.length = 0 ∧ a = b := by
      cases offset : i - ids.length with
      | zero => simpa [offset] using found
      | succ k => simp [offset] at found
    rw [← same, new]
    omega

end Indexed

theorem getElem?_swapPop : (swapPop ids i last)[j]? =
    if j < ids.length - 1 then if i = j then some last else ids[j]? else none := by
  unfold swapPop
  rw [List.getElem?_dropLast, List.length_set]
  split
  · rw [List.getElem?_set]
    split
    · rw [if_pos (by omega)]
    · rfl
  · rfl

/-- A list without repetitions stays one, whatever the positions say. -/
theorem nodup_swapPop (nodup : ids.Nodup) (atEnd : ids[ids.length - 1]? = some last) :
    (swapPop ids i last).Nodup := by
  rw [List.nodup_iff_getElem?_ne_getElem?] at nodup ⊢
  intro j k before bound
  have short : k < ids.length - 1 := by
    simpa [swapPop] using bound
  rw [getElem?_swapPop, getElem?_swapPop, if_pos (by omega), if_pos short]
  split
  · rename_i first
    rw [if_neg (by omega), ← atEnd]
    exact (nodup _ _ short (by omega)).symm
  · split
    · rw [← atEnd]
      exact nodup _ _ (by omega) (by omega)
    · exact nodup _ _ before (by omega)

/-- Exactly the element at `i` leaves. -/
theorem mem_swapPop (indexed : Indexed ids pos) (here : ids[i]? = some a)
    (atEnd : ids[ids.length - 1]? = some last) : b ∈ swapPop ids i last ↔ b ∈ ids ∧ b ≠ a := by
  have place := indexed i a here
  have lastPlace := indexed _ last atEnd
  have bound := (List.getElem?_eq_some_iff.mp here).1
  constructor
  · intro member
    obtain ⟨j, found⟩ := List.mem_iff_getElem?.mp member
    rw [getElem?_swapPop] at found
    split at found
    · split at found
      · rename_i inside same
        obtain rfl := Option.some.inj found
        refine ⟨List.mem_of_getElem? atEnd, fun equal => ?_⟩
        rw [equal] at lastPlace
        omega
      · rename_i inside different
        refine ⟨List.mem_of_getElem? found, fun equal => different ?_⟩
        rw [equal] at found
        rw [← place, ← indexed j a found]
    · cases found
  · rintro ⟨member, different⟩
    have found := indexed.get member
    have inside := indexed.lt_length member
    have apart : i ≠ pos b := by
      intro equal
      rw [← equal, here] at found
      exact different (Option.some.inj found).symm
    rw [List.mem_iff_getElem?]
    by_cases final : pos b = ids.length - 1
    · rw [final, atEnd] at found
      exact ⟨i, by rw [getElem?_swapPop, if_pos (by omega), if_pos rfl, found]⟩
    · exact ⟨pos b, by rw [getElem?_swapPop, if_pos (by omega), if_neg apart, found]⟩

/-- The moved element takes over the position that became free. -/
theorem Indexed.swapPop (indexed : Indexed ids pos) (atEnd : ids[ids.length - 1]? = some last)
    (moved : pos' last = i) (others : ∀ b ∈ Library.swapPop ids i last, b ≠ last → pos' b = pos b) :
    Indexed (Library.swapPop ids i last) pos' := by
  have lastPlace := indexed _ last atEnd
  intro j b found
  have member := List.mem_of_getElem? found
  rw [getElem?_swapPop] at found
  split at found
  · rename_i inside
    split at found
    · rename_i same
      obtain rfl := Option.some.inj found
      rw [moved, same]
    · have place := indexed j b found
      rw [others b member, place]
      intro equal
      rw [equal] at place
      omega
  · cases found

end Library
