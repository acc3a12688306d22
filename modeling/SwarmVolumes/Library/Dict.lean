import Mathlib.Algebra.Order.Ring.Nat
import SwarmVolumes.Library.Latest
import Mathlib.Data.List.Perm.Basic
import Mathlib.Data.List.Induction
import Mathlib.Data.List.Nodup

/-!
# Insertion-ordered dictionaries

A dictionary is the list of its entries, oldest key first. Updating a key that
is present keeps its place; `push` collects values under a key in the order they
come, which is what grouping a stream by a key amounts to (`get?_group`).
-/
namespace Library

abbrev Dict (κ α : Type*) := List (κ × α)

namespace Dict

variable {κ α β : Type*} [DecidableEq κ] {d : Dict κ α} {k k' : κ}

def get? : Dict κ α → κ → Option α
  | [], _ => none
  | (k', a) :: d, k => if k' = k then some a else get? d k

/-- The entry of `k` becomes `f` of what it was; a new entry goes to the end. -/
def update : Dict κ α → κ → (Option α → α) → Dict κ α
  | [], k, f => [(k, f none)]
  | (k', a) :: d, k, f => if k' = k then (k', f (some a)) :: d else (k', a) :: update d k f

def set (d : Dict κ α) (k : κ) (a : α) : Dict κ α := d.update k fun _ => a

def pop (d : Dict κ α) (k : κ) : Dict κ α := d.filter fun entry => entry.1 ≠ k

def push (d : Dict κ (List α)) (k : κ) (a : α) : Dict κ (List α) :=
  d.update k fun as => as.getD [] ++ [a]

/-- A stream grouped by a key, keys in the order they first come. -/
def group (key : α → κ) (as : List α) : Dict κ (List α) :=
  as.foldl (fun d a => d.push (key a) a) []

/-- A stream indexed by a key: the first value of each (`setdefault`). -/
def index (key : α → κ) (as : List α) : Dict κ α :=
  as.foldl (fun d a => d.update (key a) fun old => old.getD a) []

def keys (d : Dict κ α) : List κ := d.map Prod.fst

def values (d : Dict κ α) : List α := d.map Prod.snd

@[simp] theorem get?_nil : get? ([] : Dict κ α) k = none := rfl

theorem get?_update (f : Option α → α) :
    (d.update k f).get? k' = if k' = k then some (f (d.get? k)) else d.get? k' := by
  induction d with
  | nil => simp [update, get?, eq_comm]
  | cons entry d ih =>
    by_cases here : entry.1 = k
    · by_cases there : k' = k
      · simp [update, get?, here, there]
      · simp [update, get?, here, there, Ne.symm there]
    · by_cases there : k' = k
      · subst there
        rw [if_pos rfl] at ih
        simp [update, get?, here, ih]
      · simp [update, get?, here, there, ih]

/-- Setting a new key appends it. -/
theorem set_of_fresh {a : α} (fresh : k ∉ d.keys) : d.set k a = d ++ [(k, a)] := by
  unfold set
  induction d with
  | nil => rfl
  | cons entry d ih =>
    simp only [keys, List.map_cons, List.mem_cons, not_or] at fresh
    rw [update, if_neg (Ne.symm fresh.1), ih fresh.2]
    rfl

/-- Setting the entries of a dictionary one after another gives it back. -/
theorem foldl_set {d : Dict κ α} (distinct : d.keys.Nodup) :
    d.foldl (fun d entry => set d entry.1 entry.2) [] = d := by
  induction d using List.reverseRecOn with
  | nil => rfl
  | append_singleton d entry ih =>
    rw [keys, List.map_append, List.nodup_append] at distinct
    obtain ⟨earlier, _, apart⟩ := distinct
    have fresh : entry.1 ∉ keys d := fun old => apart entry.1 old entry.1 (List.mem_singleton_self _) rfl
    rw [List.foldl_append, ih earlier, List.foldl_cons, List.foldl_nil, set_of_fresh fresh]

/-- The dictionary of a list of entries; the last of a key counts. -/
def ofList (entries : List (κ × α)) : Dict κ α :=
  entries.foldl (fun d entry => set d entry.1 entry.2) []

/-- Values under a key of their own; the last of a key counts. -/
def filed (key : α → κ) (as : List α) : Dict κ α := ofList (as.map fun a => (key a, a))

/-- Updating every value commutes with updating one. -/
theorem map_update {f : α → β} {g : Option α → α} {h : Option β → β}
    (same : ∀ old : Option α, f (g old) = h (old.map f)) :
    (d.update k g).map (fun entry => (entry.1, f entry.2)) =
      Dict.update (d.map fun entry => (entry.1, f entry.2)) k h := by
  induction d with
  | nil => simp [update, same]
  | cons entry d ih =>
    rw [List.map_cons, update, update]
    split
    · rw [List.map_cons, same]
      rfl
    · rw [List.map_cons, ih]

/-- An entry after an update was there before or is the updated one. -/
theorem mem_update {f : Option α → α} {entry : κ × α} (member : entry ∈ d.update k f) :
    entry ∈ d ∨ ∃ old, entry = (k, f old) ∧ ∀ a, old = some a → (k, a) ∈ d := by
  induction d with
  | nil => exact .inr ⟨none, List.mem_singleton.mp member, nofun⟩
  | cons first d ih =>
    rw [update] at member
    split at member
    · rename_i here
      rcases List.mem_cons.mp member with new | old
      · refine .inr ⟨some first.2, new.trans (congrArg (·, _) here), fun a same => ?_⟩
        cases same
        exact List.mem_cons.mpr (.inl (Prod.ext here.symm rfl))
      · exact .inl (List.mem_cons_of_mem _ old)
    · rcases List.mem_cons.mp member with old | rest
      · exact .inl (old ▸ List.mem_cons_self ..)
      · rcases ih rest with old | ⟨old, same, held⟩
        · exact .inl (List.mem_cons_of_mem _ old)
        · exact .inr ⟨old, same, fun a present => List.mem_cons_of_mem _ (held a present)⟩

/-- An entry after setting a key was there before or is the one set. -/
theorem mem_set {a : α} {entry : κ × α} (member : entry ∈ d.set k a) : entry ∈ d ∨ entry = (k, a) :=
  (mem_update member).imp id fun ⟨_, same, _⟩ => same

/-- A dictionary that counts gains one. -/
theorem sum_update_succ (d : Dict κ Nat) :
    (d.update k fun count => count.getD 0 + 1).values.sum = d.values.sum + 1 := by
  induction d with
  | nil => rfl
  | cons entry d ih =>
    rw [update]
    split
    · simp only [values, List.map_cons, List.sum_cons, Option.getD_some]
      omega
    · simp only [values, List.map_cons, List.sum_cons] at ih ⊢
      omega

theorem get?_map (f : α → β) : get? (d.map fun entry => (entry.1, f entry.2)) k = (d.get? k).map f := by
  induction d with
  | nil => rfl
  | cons entry d ih =>
    simp only [List.map_cons, get?]
    split
    · rfl
    · exact ih

/-- What a stream pushed under its keys leaves under each: the values filed there, in
order. -/
theorem get?_foldl_push (key : β → κ) (val : β → α) (bs : List β) (d : Dict κ (List α)) :
    (get? (bs.foldl (fun d b => d.push (key b) (val b)) d) k).getD [] =
      (d.get? k).getD [] ++ (bs.filter fun b => key b = k).map val := by
  induction bs generalizing d with
  | nil => simp
  | cons b bs ih =>
    rw [List.foldl_cons, ih, push, get?_update]
    by_cases same : key b = k
    · simp [same]
    · simp [same, Ne.symm same]

/-- What a grouped stream holds under a key: its values, in order. -/
theorem get?_group (key : α → κ) (as : List α) :
    ((group key as).get? k).getD [] = as.filter fun a => key a = k := by
  have pushed := get?_foldl_push (k := k) key id as []
  rw [List.map_id, get?_nil] at pushed
  exact pushed

theorem mem_of_get? {a : α} (found : d.get? k = some a) : (k, a) ∈ d := by
  induction d with
  | nil => cases found
  | cons entry d ih =>
    rw [get?] at found
    split at found
    · rename_i here
      rw [← here, ← Option.some.inj found]
      exact List.mem_cons_self ..
    · exact List.mem_cons_of_mem _ (ih found)

/-- Where keys are distinct, an entry is what its key holds. -/
theorem mem_iff_get? {a : α} (distinct : d.keys.Nodup) : (k, a) ∈ d ↔ d.get? k = some a := by
  induction d with
  | nil => simp
  | cons entry d ih =>
    obtain ⟨fresh, distinct⟩ := List.nodup_cons.mp distinct
    rw [List.mem_cons, get?]
    by_cases here : entry.1 = k
    · rw [if_pos here, Option.some.injEq]
      constructor
      · rintro (rfl | later)
        · rfl
        · exact absurd (List.mem_map_of_mem (f := Prod.fst) later) (here ▸ fresh)
      · rintro rfl
        exact .inl (Prod.ext here.symm rfl)
    · rw [if_neg here, ← ih distinct, or_iff_right]
      rintro rfl
      exact here rfl

theorem get?_set {a : α} : (d.set k a).get? k' = if k' = k then some a else d.get? k' :=
  get?_update _

/-- What a loop that sets an entry for each value of a list leaves under the key of one. -/
theorem get?_foldl_set {key : β → κ} {val : β → α} (agree : ∀ b c, key b = key c → val b = val c)
    {bs : List β} {b : β} (member : b ∈ bs) :
    get? (bs.foldl (fun d b => d.set (key b) (val b)) []) (key b) = some (val b) := by
  induction bs using List.reverseRecOn with
  | nil => cases member
  | append_singleton bs last ih =>
    rw [List.foldl_append, List.foldl_cons, List.foldl_nil, get?_set]
    split
    · rename_i same
      rw [agree b last same]
    · rename_i other
      rcases List.mem_append.mp member with early | here
      · exact ih early
      · exact absurd (congrArg key (List.mem_singleton.mp here)) other

/-- A key that no value has is not in the grouped stream. -/
theorem get?_group_eq_none (key : α → κ) (as : List α) :
    (group key as).get? k = none ↔ as.filter (fun a => key a = k) = [] := by
  unfold group
  induction as using List.reverseRecOn with
  | nil => simp
  | append_singleton as a ih =>
    rw [List.foldl_append, List.foldl_cons, List.foldl_nil, push, get?_update, List.filter_append,
      List.append_eq_nil_iff, ← ih]
    by_cases same : k = key a
    · simp [same]
    · simp [same, Ne.symm same]

/-- Distinct keys partition the values filed under them. -/
theorem flatMap_perm (key : α → κ) {as : List α} {f : κ → List α} {ks : List κ} (distinct : ks.Nodup)
    (filed : ∀ k, (f k).Perm (as.filter fun a => key a = k)) :
    (ks.flatMap f).Perm (as.filter fun a => key a ∈ ks) := by
  induction ks with
  | nil => simp
  | cons k ks ih =>
    obtain ⟨fresh, distinct⟩ := List.nodup_cons.mp distinct
    rw [List.flatMap_cons]
    have split := List.filter_append_perm (fun a => key a = k) (as.filter fun a => key a ∈ k :: ks)
    rw [List.filter_filter, List.filter_filter] at split
    have first : (as.filter fun a => decide (key a = k) && decide (key a ∈ k :: ks)) =
        as.filter fun a => key a = k :=
      List.filter_congr fun a _ => by simp +contextual
    have rest : (as.filter fun a => (!decide (key a = k)) && decide (key a ∈ k :: ks)) =
        as.filter fun a => key a ∈ ks := by
      refine List.filter_congr fun a _ => ?_
      by_cases same : key a = k
      · simp [same, fresh]
      · simp [same]
    rw [first, rest] at split
    exact ((filed k).append (ih distinct)).trans split

/-! ## Grouping and indexing keep what they are given -/

theorem keys_update (f : Option α → α) :
    (d.update k f).keys = if k ∈ d.keys then d.keys else d.keys ++ [k] := by
  unfold keys
  induction d with
  | nil => rfl
  | cons entry d ih =>
    by_cases here : entry.1 = k
    · simp [update, here]
    · rw [update, if_neg here, List.map_cons, ih]
      by_cases there : k ∈ d.map Prod.fst
      · simp [there]
      · simp [there, Ne.symm here]

theorem nodup_update (f : Option α → α) (distinct : d.keys.Nodup) : (d.update k f).keys.Nodup := by
  rw [keys_update]
  split
  · exact distinct
  · rename_i fresh
    rw [List.nodup_append]
    refine ⟨distinct, List.nodup_singleton k, fun x old y new same => fresh ?_⟩
    rwa [← List.mem_singleton.mp new, ← same]

theorem nodup_ofList (entries : List (κ × α)) : (ofList entries).keys.Nodup := by
  unfold ofList
  induction entries using List.reverseRecOn with
  | nil => exact List.nodup_nil
  | append_singleton entries entry ih =>
    rw [List.foldl_append]
    exact nodup_update _ ih

theorem mem_ofList {entries : List (κ × α)} {entry : κ × α} (member : entry ∈ ofList entries) :
    entry ∈ entries := by
  unfold ofList at member
  induction entries using List.reverseRecOn with
  | nil => cases member
  | append_singleton entries last ih =>
    rw [List.foldl_append] at member
    rcases mem_set member with old | rfl
    · exact List.mem_append_left _ (ih old)
    · exact List.mem_append_right _ (List.mem_singleton_self _)

theorem get?_ofList (entries : List (κ × α)) :
    (ofList entries).get? k = latest (fun entry => if entry.1 = k then some entry.2 else none) entries := by
  unfold ofList
  induction entries using List.reverseRecOn with
  | nil => rfl
  | append_singleton entries last ih =>
    rw [List.foldl_append, List.foldl_cons, List.foldl_nil, get?_set, latest_snoc, ih]
    by_cases here : last.1 = k
    · rw [if_pos here.symm, if_pos here, Option.some_or]
    · rw [if_neg (Ne.symm here), if_neg here, Option.none_or]

/-- Where keys are distinct, the dictionary of a list is the list. -/
theorem ofList_of_nodup {entries : List (κ × α)} (distinct : (keys entries).Nodup) :
    ofList entries = entries :=
  foldl_set distinct

theorem get?_keyed (key : β → κ) (val : β → α) (bs : List β) :
    get? (bs.map fun b => (key b, val b)) k = (bs.find? fun b => key b = k).map val := by
  induction bs with
  | nil => rfl
  | cons b bs ih =>
    rw [List.map_cons, get?, List.find?_cons]
    by_cases here : key b = k
    · simp [here]
    · simp [here, ih]

/-- What is held under a key that identifies the values of a list. -/
theorem get?_ofList_keyed {key : β → κ} (val : β → α) {bs : List β} (distinct : (bs.map key).Nodup) :
    (ofList (bs.map fun b => (key b, val b))).get? k = (bs.find? fun b => key b = k).map val := by
  rw [ofList_of_nodup, get?_keyed]
  rwa [keys, List.map_map]

/-- A key that identifies the values of a list finds each of them. -/
theorem find?_keyed {key : β → κ} {bs : List β} {b : β} (distinct : (bs.map key).Nodup) (member : b ∈ bs) :
    (bs.find? fun b' => key b' = key b) = some b := by
  have listed : (key b, b) ∈ bs.map fun b => (key b, id b) := List.mem_map_of_mem member
  rw [mem_iff_get?, get?_keyed, Option.map_id, id] at listed
  · exact listed
  · rwa [keys, List.map_map]

theorem filed_append (key : α → κ) (as bs : List α) :
    bs.foldl (fun d b => d.set (key b) b) (filed key as) = filed key (as ++ bs) := by
  rw [filed, filed, ofList, ofList, List.map_append, List.foldl_append, List.foldl_map (l := bs)]

/-- The values filed: of each key, the last. -/
theorem mem_values_filed {key : α → κ} {as : List α} {a : α} : a ∈ (filed key as).values ↔
    latest (fun b => if key b = key a then some b else none) as = some a := by
  have distinct : (filed key as).keys.Nodup := nodup_ofList _
  have sets : latest (fun b => if key b = key a then some b else none) as = (filed key as).get? (key a) := by
    rw [filed, get?_ofList, latest, latest, List.filterMap_map]
    rfl
  rw [sets, ← mem_iff_get? distinct]
  constructor
  · intro member
    obtain ⟨entry, listed, rfl⟩ := List.mem_map.mp member
    obtain ⟨b, _, rfl⟩ := List.mem_map.mp (mem_ofList listed)
    exact listed
  · exact fun listed => List.mem_map_of_mem (f := Prod.snd) listed

theorem nodup_filed (key : α → κ) (as : List α) : ((filed key as).values.map key).Nodup := by
  have own : (filed key as).values.map key = (filed key as).keys := by
    rw [values, keys, List.map_map]
    refine List.map_congr_left fun entry member => ?_
    obtain ⟨a, _, rfl⟩ := List.mem_map.mp (mem_ofList member)
    rfl
  rw [own]
  exact nodup_ofList _

theorem update_append_perm (d : Dict κ (List α)) (k : κ) (new : List α) :
    ((d.update k fun as => as.getD [] ++ new).flatMap Prod.snd).Perm (d.flatMap Prod.snd ++ new) := by
  induction d with
  | nil => simp [update]
  | cons entry d ih =>
    rw [update]
    split
    · rw [List.flatMap_cons, List.flatMap_cons, Option.getD_some, List.append_assoc, List.append_assoc]
      exact List.perm_append_comm.append_left _
    · rw [List.flatMap_cons, List.flatMap_cons, List.append_assoc]
      exact ih.append_left _

theorem push_perm (d : Dict κ (List α)) (k : κ) (a : α) :
    ((d.push k a).flatMap Prod.snd).Perm (d.flatMap Prod.snd ++ [a]) :=
  update_append_perm d k [a]

theorem group_perm (key : α → κ) (as : List α) : ((group key as).flatMap Prod.snd).Perm as := by
  unfold group
  induction as using List.reverseRecOn with
  | nil => exact .refl _
  | append_singleton as a ih =>
    rw [List.foldl_append]
    exact (push_perm ..).trans (ih.append_right _)

theorem group_keys (key : α → κ) (as : List α) :
    (group key as).keys.Nodup ∧ ∀ a ∈ as, key a ∈ (group key as).keys := by
  unfold group
  induction as using List.reverseRecOn with
  | nil => exact ⟨List.nodup_nil, by simp⟩
  | append_singleton as a ih =>
    rw [List.foldl_append]
    refine ⟨nodup_update _ ih.1, fun b member => ?_⟩
    change key b ∈ Dict.keys (Dict.update _ _ _)
    rw [keys_update]
    rcases List.mem_append.mp member with old | new
    · split
      · exact ih.2 b old
      · exact List.mem_append_left _ (ih.2 b old)
    · rw [List.mem_singleton.mp new]
      split
      · assumption
      · simp

/-- A group is the values with its key, and every value is in one. -/
theorem of_mem_group {key : α → κ} {as g : List α} (entry : (k, g) ∈ group key as) :
    g = as.filter fun a => key a = k := by
  have filed := (mem_iff_get? (group_keys key as).1).mp entry
  rw [← get?_group, filed, Option.getD_some]

theorem mem_group {key : α → κ} {as : List α} {a : α} (member : a ∈ as) :
    (key a, as.filter fun b => key b = key a) ∈ group key as := by
  obtain ⟨⟨_, g⟩, entry, rfl⟩ := List.mem_map.mp ((group_keys key as).2 a member)
  rwa [← of_mem_group entry]

/-- What an index holds: one value for each key that occurs, filed under it. -/
theorem index_spec (key : α → κ) (as : List α) :
    (index key as).keys.Nodup ∧ (∀ a ∈ as, key a ∈ (index key as).keys) ∧
    ∀ entry ∈ index key as, entry.2 ∈ as ∧ key entry.2 = entry.1 := by
  unfold index
  induction as using List.reverseRecOn with
  | nil => exact ⟨List.nodup_nil, by simp, by simp⟩
  | append_singleton as a ih =>
    obtain ⟨distinct, present, filed⟩ := ih
    rw [List.foldl_append]
    generalize as.foldl (fun d a => Dict.update d (key a) fun old => old.getD a) ([] : Dict κ α) = d
      at distinct present filed
    refine ⟨nodup_update _ distinct, fun b member => ?_, fun entry member => ?_⟩
    · change key b ∈ Dict.keys (Dict.update d _ _)
      rw [keys_update]
      rcases List.mem_append.mp member with old | new
      · split
        · exact present b old
        · exact List.mem_append_left _ (present b old)
      · rw [List.mem_singleton.mp new]
        split
        · assumption
        · simp
    · have kept : entry ∈ d ∨ entry = (key a, a) := by
        rcases mem_update member with old | ⟨_ | b, rfl, held⟩
        · exact .inl old
        · exact .inr rfl
        · exact .inl (held b rfl)
      rcases kept with old | rfl
      · exact ⟨List.mem_append_left _ (filed entry old).1, (filed entry old).2⟩
      · exact ⟨by simp, rfl⟩

/-- Where keys identify values, an index holds each value once. -/
theorem index_values {key : α → κ} {as : List α} (identified : ∀ a ∈ as, ∀ b ∈ as, key a = key b → a = b) :
    (index key as).values.Nodup ∧ ∀ a, a ∈ (index key as).values ↔ a ∈ as := by
  obtain ⟨distinct, present, filed⟩ := index_spec key as
  have keyed : (index key as).values.map key = (index key as).keys := by
    rw [values, keys, List.map_map]
    exact List.map_congr_left fun entry member => (filed entry member).2
  refine ⟨List.Nodup.of_map key (keyed ▸ distinct), fun a => ⟨fun member => ?_, fun member => ?_⟩⟩
  · obtain ⟨entry, listed, rfl⟩ := List.mem_map.mp member
    exact (filed entry listed).1
  · have key_present := present a member
    rw [← keyed] at key_present
    obtain ⟨b, listed, same⟩ := List.mem_map.mp key_present
    obtain ⟨entry, within, rfl⟩ := List.mem_map.mp listed
    rwa [← identified _ (filed entry within).1 a member same]

end Dict
end Library
