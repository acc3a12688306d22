import SwarmVolumes.Library.Paging
import SwarmVolumes.Source.Registry.Effects

/-!
# Views

`getAccount`, `getVolume` and the paginated `getActiveVolumes`
(`VolumeRegistry.sol:137-139,359-408`).
-/
namespace SwarmVolumes.Source
open Library

structure VolumeView where
  volumeId : Bytes32
  batchId : Bytes32
  owner : Address
  payer : Address
  chunkSigner : Address
  createdAt : UInt64
  ttlExpiry : UInt64
  depth : UInt8
  status : Status
  accountActive : Bool
  deriving DecidableEq, Repr

def getAccount (s : Storage) (owner : Address) : Account := s.accounts owner

def getVolume (s : Storage) (volumeId : Bytes32) : VolumeView :=
  let v := s.volumes volumeId
  let acct := s.accounts v.owner
  { volumeId
    batchId := v.batchId
    owner := v.owner
    payer := acct.payer
    chunkSigner := v.chunkSigner
    createdAt := v.createdAt
    ttlExpiry := v.ttlExpiry
    depth := v.depth
    status := v.status
    accountActive := acct.active }

/-- The slice `[offset, offset + limit)` of the active list, clamped to its end. -/
def getActiveVolumes (s : Storage) (offset limit : Nat) : Except Revert (List VolumeView) :=
  let n := s.activeVolumeIds.length
  if n ≤ offset then .ok []
  else do
    let stop ← orRevert .overflow (Word.add? offset limit)
    let stop := if n < stop then n else stop
    let len ← orRevert .overflow (Word.sub? stop offset)
    (List.range len).mapM fun i => do
      let id ← orRevert .outOfBounds s.activeVolumeIds[offset + i]?
      .ok (getVolume s id)

variable {s : Storage} {offset limit : Nat}

/-- A page whose end is a `uint256` is the slice of the list, each ID with its view. -/
theorem getActiveVolumes_slice (small : offset + limit < Word.modulus) :
    getActiveVolumes s offset limit =
      .ok ((slice s.activeVolumeIds offset limit).map (getVolume s)) := by
  unfold getActiveVolumes
  dsimp only
  split
  · rename_i past
    simp [slice, List.drop_eq_nil_of_le past]
  · rename_i inside
    have stops : Word.add? offset limit = some (offset + limit) := if_pos small
    rw [stops]
    simp only [orRevert, ok_bind]
    generalize same : (if s.activeVolumeIds.length < offset + limit then s.activeVolumeIds.length
      else offset + limit) = stop
    have bounds : offset ≤ stop ∧ stop - offset = min limit (s.activeVolumeIds.length - offset) := by
      split at same <;> omega
    have length : Word.sub? stop offset = some (stop - offset) := if_pos bounds.1
    rw [length]
    simp only [ok_bind]
    have each : ∀ i ∈ List.range (stop - offset),
        (do let id ← orRevert .outOfBounds s.activeVolumeIds[offset + i]?
            Except.ok (getVolume s id) : Except Revert VolumeView) =
          .ok (getVolume s (s.activeVolumeIds.getD (offset + i) 0)) := by
      intro i member
      have inside : offset + i < s.activeVolumeIds.length := by
        have := List.mem_range.mp member
        omega
      rw [List.getD_eq_getElem?_getD, List.getElem?_eq_getElem inside]
      rfl
    apply (mapM_ok each).trans
    congr 1
    apply List.ext_getElem
    · simp only [List.length_map, List.length_range, slice, List.length_take, List.length_drop]
      exact bounds.2
    · intro i counted _
      have inside : offset + i < s.activeVolumeIds.length := by
        simp only [List.length_map, List.length_range] at counted
        omega
      simp [slice, inside]

end SwarmVolumes.Source
