import SwarmVolumes.Library.Fallible
import SwarmVolumes.Library.Paging
import SwarmVolumes.Source.Keeper.Client

/-!
# Enumeration

`getActiveVolumeCount.ts` and `collectActiveVolumes.ts`: the active index in
pages of one multicall.
-/
namespace SwarmVolumes.Source.Keeper
open Library

variable {ω : Type}

/-- The offset and the limit of each page. -/
def pageArgs (total pageSize : Nat) : List (Nat × Nat) :=
  (List.range (pageCount total pageSize)).map fun i => (i * pageSize, pageSize)

def collectActiveVolumes (client : Client ω) (registry : Address) (pageSize : Nat)
    (blockNumber : BitVec 256) : Request ω (List VolumeView) := fun w =>
  if pageSize < 1 then (.error (.error s!"pageSize must be >= 1, got {pageSize}"), w)
  else
    match client.getActiveVolumeCount registry blockNumber w with
    | (.error e, w) => (.error e, w)
    | (.ok total, w) =>
      if total = 0 then (.ok [], w)
      else
        match client.getActiveVolumes registry blockNumber (pageArgs total pageSize) w with
        | (.error e, w) => (.error e, w)
        | (.ok pages, w) => (.ok pages.flatten, w)

/-- The ABI can encode the arguments of a page. -/
def Encodable (page : Nat × Nat) : Prop := page.1 < Word.modulus ∧ page.2 < Word.modulus

instance (page : Nat × Nat) : Decidable (Encodable page) := inferInstanceAs (Decidable (_ ∧ _))

/-- The client answers every read of the registry at this block from the storage
`s`. An argument that is no `uint256` cannot be encoded, which throws. -/
structure Pinned (client : Client ω) (registry : Address) (blockNumber : BitVec 256) (s : Storage) :
    Prop where
  count : ∀ w, (client.getActiveVolumeCount registry blockNumber w).1 = .ok (getActiveVolumeCount s)
  pages : ∀ args w views, (∀ page ∈ args, Encodable page) →
    args.mapM (fun page => getActiveVolumes s page.1 page.2) = .ok views →
    (client.getActiveVolumes registry blockNumber args w).1 = .ok views
  unencodable : ∀ args w, (∃ page ∈ args, ¬ Encodable page) →
    ∃ e, (client.getActiveVolumes registry blockNumber args w).1 = .error e

variable {client : Client ω} {registry : Address} {blockNumber : BitVec 256} {s : Storage}
variable {pageSize : Nat}

/-- Every page is answered with its slice of the list: the sum of its offset and
its limit stays a `uint256`. -/
theorem page_ok (short : s.activeVolumeIds.length < 2 ^ 32) (positive : 1 ≤ pageSize)
    (word : pageSize < Word.modulus) {i : Nat}
    (counted : i < pageCount s.activeVolumeIds.length pageSize) :
    Encodable (i * pageSize, pageSize) ∧ getActiveVolumes s (i * pageSize) pageSize =
      .ok ((slice s.activeVolumeIds (i * pageSize) pageSize).map (getVolume s)) := by
  have starts : i * pageSize < s.activeVolumeIds.length := page_starts positive counted
  have small : i * pageSize + pageSize < Word.modulus := by
    rcases Nat.eq_zero_or_pos i with rfl | later
    · omega
    · have shorter : pageSize ≤ i * pageSize := Nat.le_mul_of_pos_left pageSize later
      have wide : 2 ^ 33 < Word.modulus := by decide
      omega
  constructor
  · constructor
    · dsimp only
      omega
    · exact word
  · exact getActiveVolumes_slice small

/-- The enumeration at a pinned block is the list of views of the active list. -/
theorem collectActiveVolumes_ok (pinned : Pinned client registry blockNumber s)
    (short : s.activeVolumeIds.length < 2 ^ 32) (positive : 1 ≤ pageSize)
    (word : pageSize < Word.modulus) (w : ω) :
    (collectActiveVolumes client registry pageSize blockNumber w).1 =
      .ok (s.activeVolumeIds.map (getVolume s)) := by
  obtain ⟨w₁, counted⟩ := replied (pinned.count w)
  rw [collectActiveVolumes, if_neg (by omega), counted]
  dsimp only
  split
  · rename_i none
    rw [List.eq_nil_of_length_eq_zero none, List.map_nil]
  · have encodable : ∀ page ∈ pageArgs (getActiveVolumeCount s) pageSize, Encodable page := by
      intro page member
      obtain ⟨i, listed, rfl⟩ := List.mem_map.mp member
      exact (page_ok short positive word (List.mem_range.mp listed)).1
    have views : (pageArgs (getActiveVolumeCount s) pageSize).mapM
        (fun page => getActiveVolumes s page.1 page.2) =
        .ok ((List.range (pageCount s.activeVolumeIds.length pageSize)).map fun i =>
          slice (s.activeVolumeIds.map (getVolume s)) (i * pageSize) pageSize) := by
      rw [pageArgs, List.mapM_map]
      apply mapM_ok
      intro i member
      rw [Function.comp_apply, (page_ok short positive word (List.mem_range.mp member)).2, slice,
        slice, List.map_take, List.map_drop]
    obtain ⟨w₂, answered⟩ := replied (pinned.pages _ w₁ _ encodable views)
    have whole := pages_flatten (s.activeVolumeIds.map (getVolume s)) positive
    rw [List.length_map] at whole
    rw [answered]
    exact congrArg Except.ok whole

/-- Pages of a size that is no `uint256` cannot be asked for. -/
theorem collectActiveVolumes_unencodable (pinned : Pinned client registry blockNumber s)
    (some : getActiveVolumeCount s ≠ 0) (large : Word.modulus ≤ pageSize) (w : ω) :
    ∃ e, (collectActiveVolumes client registry pageSize blockNumber w).1 = .error e := by
  have positive : 1 ≤ pageSize := le_trans (by decide) large
  have first : 0 < pageCount (getActiveVolumeCount s) pageSize := by
    by_contra none
    have covered := le_pageCount_mul (getActiveVolumeCount s) positive
    rw [Nat.eq_zero_of_not_pos none] at covered
    omega
  have page : ∃ page ∈ pageArgs (getActiveVolumeCount s) pageSize, ¬ Encodable page := by
    refine ⟨_, List.mem_map_of_mem (List.mem_range.mpr first), ?_⟩
    rintro ⟨_, word⟩
    exact absurd word (Nat.not_lt.mpr large)
  obtain ⟨w₁, counted⟩ := replied (pinned.count w)
  obtain ⟨e, thrown⟩ := pinned.unencodable _ w₁ page
  obtain ⟨w₂, answered⟩ := replied thrown
  refine ⟨e, ?_⟩
  rw [collectActiveVolumes, if_neg (by omega), counted]
  dsimp only
  rw [if_neg some, answered]

end SwarmVolumes.Source.Keeper
