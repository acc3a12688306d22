import SwarmVolumes.Library.Dict
import Mathlib.Data.List.Sort

/-!
# Logs kept apart by name

Values grouped by a name, each group sorted, and merged again. Where the order tells
the values of a list apart (`Apart`), what the logs hold depends on the values and
not on the order they came in.
-/
namespace Library.NamedLogs

variable {α κ : Type*} [DecidableEq κ]

section
variable (name : α → κ) (le : α → α → Prop) [DecidableRel le]

/-- The sorted log of each name. -/
def ofValues (as : List α) : Dict κ (List α) :=
  (Dict.group name as).map fun (k, group) => (k, group.insertionSort le)

/-- The logs of some names, merged. -/
def merge (logs : Dict κ (List α)) (names : List κ) : List α :=
  (names.flatMap fun k => (logs.get? k).getD []).insertionSort le

/-- Every log, merged. -/
def merged (logs : Dict κ (List α)) : List α := merge le logs logs.keys

end

/-- The order tells the values of a list apart. -/
def Apart (le : α → α → Prop) (as : List α) : Prop := ∀ a ∈ as, ∀ b ∈ as, le a b → le b a → a = b

theorem Apart.mono {le : α → α → Prop} {as bs : List α} (apart : Apart le as) (within : ∀ b ∈ bs, b ∈ as) :
    Apart le bs :=
  fun a first b second => apart a (within a first) b (within b second)

variable {name : α → κ} {le : α → α → Prop} [DecidableRel le]

/-! ## Sorting -/

section
variable [Std.Total le] [IsTrans α le]

/-- The sorted list of values that the order tells apart is one list. -/
theorem sort_congr {as bs : List α} (apart : Apart le as) (same : as.Perm bs) :
    as.insertionSort le = bs.insertionSort le := by
  have perm : (as.insertionSort le).Perm (bs.insertionSort le) :=
    (List.perm_insertionSort ..).trans (same.trans (List.perm_insertionSort ..).symm)
  refine List.Perm.eq_of_pairwise ?_ (List.pairwise_insertionSort ..)
    (List.pairwise_insertionSort ..) perm
  intro a b first second below above
  refine apart a ((List.perm_insertionSort ..).mem_iff.mp first) b ?_ below above
  exact same.mem_iff.mpr ((List.perm_insertionSort ..).mem_iff.mp second)

theorem sort_strict {as : List α} (apart : Apart le as) (distinct : as.Nodup) :
    (as.insertionSort le).Pairwise fun a b => le a b ∧ ¬ le b a := by
  have sorted : (as.insertionSort le).Pairwise le := List.pairwise_insertionSort ..
  have distinct' : (as.insertionSort le).Nodup := (List.perm_insertionSort ..).nodup_iff.mpr distinct
  have within : ∀ a ∈ as.insertionSort le, a ∈ as := fun a => (List.perm_insertionSort ..).mem_iff.mp
  refine (sorted.and distinct').imp_of_mem fun first second both => ⟨both.1, fun above => both.2 ?_⟩
  exact apart _ (within _ first) _ (within _ second) both.1 above

/-- Part of a sorted list is the sorted part. -/
theorem filter_sort {as : List α} (apart : Apart le as) (p : α → Bool) :
    (as.insertionSort le).filter p = (as.filter p).insertionSort le := by
  have sorted : ((as.insertionSort le).filter p).Pairwise le := (List.pairwise_insertionSort ..).filter p
  have perm : ((as.insertionSort le).filter p).Perm (as.filter p) := (List.perm_insertionSort ..).filter p
  rw [← List.Pairwise.insertionSort_eq sorted]
  exact sort_congr (apart.mono fun a member => List.mem_of_mem_filter (perm.mem_iff.mp member)) perm

end

/-! ## The logs -/

theorem get?_ofValues (as : List α) (k : κ) : (ofValues name le as).get? k =
    if as.filter (fun a => name a = k) = [] then none
    else some ((as.filter fun a => name a = k).insertionSort le) := by
  have held := Dict.get?_group name as (k := k)
  have absent := Dict.get?_group_eq_none name as (k := k)
  unfold ofValues
  rw [Dict.get?_map fun group : List α => group.insertionSort le]
  split
  · rename_i empty
    rw [absent.mpr empty]
    rfl
  · rename_i present
    cases found : (Dict.group name as).get? k with
    | none => exact absurd (absent.mp found) present
    | some group =>
      rw [found, Option.getD_some] at held
      rw [held]
      rfl

theorem keys_ofValues (as : List α) : (ofValues name le as).keys = (Dict.group name as).keys := by
  rw [ofValues, Dict.keys, Dict.keys, List.map_map]
  rfl

theorem mem_ofValues {as : List α} {entry : κ × List α} (member : entry ∈ ofValues name le as) :
    entry.2 = (as.filter fun a => name a = entry.1).insertionSort le := by
  obtain ⟨⟨k, group⟩, listed, rfl⟩ := List.mem_map.mp member
  dsimp only
  rw [Dict.of_mem_group listed]

theorem mem_keys {as : List α} {k : κ} : k ∈ (ofValues name le as).keys ↔ ∃ a ∈ as, name a = k := by
  rw [keys_ofValues]
  constructor
  · intro member
    obtain ⟨⟨k, group⟩, listed, rfl⟩ := List.mem_map.mp member
    have held := Dict.of_mem_group listed
    have present : (Dict.group name as).get? k ≠ none := by
      rw [(Dict.mem_iff_get? (Dict.group_keys name as).1).mp listed]
      exact Option.some_ne_none _
    rw [Ne, Dict.get?_group_eq_none] at present
    obtain ⟨a, among⟩ := List.exists_mem_of_ne_nil _ present
    exact ⟨a, List.mem_of_mem_filter among, by simpa using List.of_mem_filter among⟩
  · rintro ⟨a, member, rfl⟩
    exact (Dict.group_keys name as).2 a member

/-- The log of a name holds the values that have it. -/
theorem log_perm (as : List α) (k : κ) :
    (((ofValues name le as).get? k).getD []).Perm (as.filter fun a => name a = k) := by
  rw [get?_ofValues]
  split
  · rename_i empty
    rw [empty]
    exact .refl _
  · exact List.perm_insertionSort ..

/-- Merging every log gives the values back. -/
theorem merged_perm (as : List α) : (merged le (ofValues name le as)).Perm as := by
  obtain ⟨distinct, named⟩ := Dict.group_keys name as
  unfold merged merge
  rw [keys_ofValues]
  refine (List.perm_insertionSort ..).trans ((Dict.flatMap_perm name distinct (log_perm as)).trans ?_)
  exact .of_eq (List.filter_eq_self.mpr fun a member => by simpa using named a member)

variable [Std.Total le] [IsTrans α le]

theorem merged_eq {as : List α} (apart : Apart le as) :
    merged le (ofValues name le as) = as.insertionSort le := by
  have perm : (merged le (ofValues name le as)).Perm as := merged_perm as
  have sorted : (merged le (ofValues name le as)).Pairwise le := List.pairwise_insertionSort ..
  rw [← List.Pairwise.insertionSort_eq sorted]
  exact sort_congr (apart.mono fun a member => perm.mem_iff.mp member) perm

/-- The log of a name is the part of the merged one that has it. -/
theorem log_eq {as : List α} (apart : Apart le as) {entry : κ × List α}
    (member : entry ∈ ofValues name le as) :
    entry.2 = (merged le (ofValues name le as)).filter fun a => name a = entry.1 := by
  rw [merged_eq apart, filter_sort apart, mem_ofValues member]

/-- The logs do not depend on the order the values came in. -/
theorem get?_congr {as bs : List α} (apart : Apart le as) (same : as.Perm bs) (k : κ) :
    (ofValues name le as).get? k = (ofValues name le bs).get? k := by
  have filed := same.filter fun a => decide (name a = k)
  have empty : as.filter (fun a => name a = k) = [] ↔ bs.filter (fun a => name a = k) = [] :=
    ⟨fun nil => (nil ▸ filed).nil_eq.symm, fun nil => (nil ▸ filed).eq_nil⟩
  rw [get?_ofValues, get?_ofValues, sort_congr (apart.mono fun a => List.mem_of_mem_filter) filed]
  simp only [empty]

end Library.NamedLogs
