import SwarmVolumes.Source.Registry.Effects

/-!
# Reverts that would be defects

Three reverts are not answers to a bad request: the two panics of array accesses
in `_retire`, and the collision check of `_recordVolume`. `execute_avoids`
traces each of them to the one place it comes from, so that a call avoids it
when that place does.
-/
namespace SwarmVolumes.Source
open Library

variable {T P : Type} {d : Deployment T P} {msg : Msg} {w : World T P} {bad : Revert → Prop}

def Defect (r : Revert) : Prop :=
  r = .outOfBounds ∨ r = .emptyPop ∨ r = .require "VOLUMEID_COLLISION"

instance (r : Revert) : Decidable (Defect r) := inferInstanceAs (Decidable (_ ∨ _ ∨ _))

/-- A revert of BZZ or PostageStamp, of a check on what they returned, or of the
arithmetic on it. -/
def Upstream (r : Revert) : Prop :=
  r = .callee ∨ r = .overflow ∨ r = .require "BZZ_TRANSFER_FAIL" ∨
    r = .require "BZZ_APPROVE_FAIL" ∨ r = .require "BATCHID_MISMATCH"

instance (r : Revert) : Decidable (Upstream r) :=
  inferInstanceAs (Decidable (_ ∨ _ ∨ _ ∨ _ ∨ _))

theorem Defect.not_upstream {r : Revert} (defect : Defect r) : ¬ Upstream r := by
  rcases defect with rfl | rfl | rfl
  · decide
  · decide
  · decide

/-- The computation reverts only for a reason upstream. -/
abbrev OnlyUpstream {α : Type} (x : Except Revert α) : Prop := Avoids (fun r => ¬ Upstream r) x

theorem OnlyUpstream.avoids {α : Type} {x : Except Revert α} (only : OnlyUpstream x)
    (defect : ∀ r, bad r → Defect r) : Avoids bad x :=
  only.mono fun r isBad => (defect r isBad).not_upstream

theorem orRevert_upstream {α : Type} {r : Revert} (upstream : Upstream r) (o : Option α) :
    OnlyUpstream (orRevert r o) := by
  cases o with
  | none => exact .error (not_not.mpr upstream)
  | some a => exact .ok a

theorem canPull_upstream (payer : Address) (amount : Nat) :
    OnlyUpstream (canPull d w payer amount) := by
  unfold canPull
  refine .ite (fun _ => .ok _) fun _ => .ite (fun _ => .ok _) fun _ => .ite (fun _ => ?_)
    fun _ => .ok _
  exact .bind (orRevert_upstream (by decide) _) fun _ _ => .ite (fun _ => .ok _) fun _ => .ok _

theorem pull_upstream (payer : Address) (amount : Nat) :
    OnlyUpstream (pull d msg w payer amount) :=
  .bind (orRevert_upstream (by decide) _) fun _ _ =>
    .ite (fun _ => .ok _) fun _ => .error (by decide)

theorem approve_upstream (amount : Nat) : OnlyUpstream (approve d msg w amount) :=
  .bind (orRevert_upstream (by decide) _) fun _ _ =>
    .ite (fun _ => .ok _) fun _ => .error (by decide)

theorem payDeficit_upstream (id : Bytes32) (v : Volume) (payer : Address)
    (balance deficit : Nat) : OnlyUpstream (payDeficit d msg w id v payer balance deficit) := by
  refine .bind (canPull_upstream _ _) fun payable _ => .ite (fun _ => .ok _) fun _ => ?_
  refine .bind (pull_upstream _ _) fun _ _ => .bind (approve_upstream _) fun _ _ =>
    .bind ?_ fun _ _ => ?_
  · exact .bind (orRevert_upstream (by decide) _) fun _ _ => .ok _
  · exact .bind (orRevert_upstream (by decide) _) fun _ _ => .ok _

theorem settleDeficit_upstream (id : Bytes32) (v : Volume) (balance outpayment : Nat) :
    OnlyUpstream (settleDeficit d msg w id v balance outpayment) := by
  refine .ite (fun _ => .ok _) fun _ => ?_
  refine .bind (orRevert_upstream (by decide) _) fun _ _ => ?_
  refine .bind (orRevert_upstream (by decide) _) fun _ _ => .ite (fun _ => .ok _) fun _ => ?_
  exact .bind (orRevert_upstream (by decide) _) fun _ _ => payDeficit_upstream _ _ _ _ _

theorem createBatch_upstream (chunkSigner : Address) (perChunk : Nat)
    (depth bucketDepth : UInt8) (immutableBatch : Bool) : OnlyUpstream
      (createBatch d msg w chunkSigner perChunk depth bucketDepth immutableBatch) :=
  .bind (orRevert_upstream (by decide) _) fun _ _ =>
    .ite (fun _ => .error (by decide)) fun _ => .ok _

/-- Swap-and-pop never meets the collision check. -/
theorem Storage.retire_avoids_collision {s : Storage} {id : Bytes32} :
    Avoids (· = Revert.require "VOLUMEID_COLLISION") (s.retire id) := by
  have lookup : ∀ {α : Type} {r : Revert} (o : Option α), r ≠ .require "VOLUMEID_COLLISION" →
      Avoids (· = Revert.require "VOLUMEID_COLLISION") (orRevert r o) := by
    intro α r o different
    cases o with
    | none => exact .error different
    | some a => exact .ok a
  refine .bind (lookup _ (by decide)) fun last _ => .bind ?_ fun t _ => .bind ?_ fun _ _ => .ok _
  · refine .ite (fun _ => .ok _) fun _ => .bind (lookup _ (by decide)) fun _ _ => ?_
    exact .ite (fun _ => .error (by decide)) fun _ => .ok _
  · exact .ite (fun _ => .error (by decide)) fun _ => .ok _

/-- `_retire` adds no revert of its own to swap-and-pop. -/
theorem retire_avoids {id : Bytes32} (reason : RetireReason)
    (stored : Avoids bad (w.store.retire id)) : Avoids bad (retire msg w id reason) :=
  .bind stored fun _ _ => .ok _

/-- The trigger steps can meet a defect only in `_retire`. -/
theorem triggerOne_avoids {id : Bytes32} (defect : ∀ r, bad r → Defect r)
    (stored : (w.store.volumes id).status = .active → Avoids bad (w.store.retire id)) :
    Avoids bad (triggerOne d msg w id) := by
  have gone : (w.store.volumes id).status = .active → ∀ reason,
      Avoids bad (retired msg w id reason) := fun active reason =>
    .bind (retire_avoids reason (stored active)) fun _ _ => .ok _
  unfold triggerOne
  refine .ite (fun _ => .ok _) fun idle => ?_
  have active := not_not.mp idle
  refine .bind ((orRevert_upstream (by decide) _).avoids defect) fun _ _ => ?_
  refine .ite (fun _ => gone active _) fun _ => .ite (fun _ => gone active _) fun _ =>
    .ite (fun _ => gone active _) fun _ => .ite (fun _ => gone active _) fun _ => ?_
  exact (settleDeficit_upstream _ _ _ _).avoids defect

theorem triggerMany_avoids {ids : List Bytes32} (defect : ∀ r, bad r → Defect r)
    (stored : ∀ v ∈ triggerWorlds d msg w ids, ∀ id, (v.store.volumes id).status = .active →
      Avoids bad (v.store.retire id)) :
    Avoids bad (triggerMany d msg w ids) := by
  induction ids generalizing w with
  | nil => exact .ok _
  | cons id ids ih =>
    have here : Avoids bad (triggerOne d msg w id) :=
      triggerOne_avoids defect fun active => stored w (by simp [triggerWorlds]) id active
    refine .bind (.bind here fun _ _ => .ok _) fun mid ok => ih fun v later => stored v ?_
    obtain ⟨outcome, one⟩ := trigger_success ok
    rw [triggerWorlds, one]
    exact List.mem_cons_of_mem _ later

/-- `_recordVolume` reverts only on a used ID. -/
theorem recordVolume_avoids {batchId : Bytes32} {chunkSigner : Address} {depth : UInt8}
    {ttlExpiry : UInt64}
    (unused : bad (.require "VOLUMEID_COLLISION") →
      (w.store.volumes (d.volumeId msg.sender (w.store.accounts msg.sender).nonce)).status = .none) :
    Avoids bad (recordVolume d msg w batchId chunkSigner depth ttlExpiry) := by
  refine .bind ?_ fun _ _ => .ok _
  refine .ite (fun used => .error fun isBad => used ?_) fun _ => .ok _
  exact unused isBad

theorem registerBatch_avoids {batchId : Bytes32} {ttlExpiry : UInt64}
    (defect : ∀ r, bad r → Defect r)
    (unused : bad (.require "VOLUMEID_COLLISION") →
      (w.store.volumes (d.volumeId msg.sender (w.store.accounts msg.sender).nonce)).status = .none) :
    Avoids bad (registerBatch d msg w batchId ttlExpiry) := by
  have harmless : ∀ {r : Revert}, ¬ Defect r → ¬ bad r := fun fine isBad => fine (defect _ isBad)
  refine .ite (fun _ => .error (harmless (by decide))) fun _ =>
    .ite (fun _ => .error (harmless (by decide))) fun _ => ?_
  refine .bind ((orRevert_upstream (by decide) _).avoids defect) fun _ _ => ?_
  refine .ite (fun _ => .error (harmless (by decide))) fun _ =>
    .ite (fun _ => .error (harmless (by decide))) fun _ => ?_
  exact .bind (recordVolume_avoids unused) fun _ _ => .ok _

theorem createVolume_avoids {chunkSigner : Address} {depth bucketDepth : UInt8}
    {ttlExpiry : UInt64} {immutableBatch : Bool} (defect : ∀ r, bad r → Defect r)
    (unused : bad (.require "VOLUMEID_COLLISION") →
      (w.store.volumes (d.volumeId msg.sender (w.store.accounts msg.sender).nonce)).status = .none) :
    Avoids bad (createVolume d msg w chunkSigner depth bucketDepth ttlExpiry immutableBatch) := by
  have harmless : ∀ {r : Revert}, ¬ Defect r → ¬ bad r := fun fine isBad => fine (defect _ isBad)
  refine .ite (fun _ => .error (harmless (by decide))) fun _ =>
    .ite (fun _ => .error (harmless (by decide))) fun _ => ?_
  refine .bind ((orRevert_upstream (by decide) _).avoids defect) fun _ _ => ?_
  refine .bind ((pull_upstream _ _).avoids defect) fun w₁ pulled => ?_
  refine .bind ((approve_upstream _).avoids defect) fun w₂ approved => ?_
  refine .bind ((createBatch_upstream _ _ _ _ _).avoids defect) fun made created => ?_
  refine .bind (recordVolume_avoids fun isBad => ?_) fun _ _ => .ok _
  rw [(createBatch_frame created).1, (approve_frame approved).1, (pull_frame pulled).1]
  exact unused isBad

/-- A defect in a call is a defect of `_retire` in one of the worlds the call
starts it from, or the collision check on the caller's next ID. -/
theorem execute_avoids {call : Call} (defect : ∀ r, bad r → Defect r)
    (stored : ∀ v ∈ call.worlds d msg w, ∀ id, (v.store.volumes id).status = .active →
      Avoids bad (v.store.retire id))
    (unused : call.creating = true → bad (.require "VOLUMEID_COLLISION") →
      (w.store.volumes (d.volumeId msg.sender (w.store.accounts msg.sender).nonce)).status = .none) :
    Avoids bad (execute d msg w call) := by
  have harmless : ∀ {r : Revert}, ¬ Defect r → ¬ bad r := fun fine isBad => fine (defect _ isBad)
  cases call with
  | designateFundingWallet payer => exact .ok _
  | confirmAuth owner => exact .map (.ite (fun _ => .error (harmless (by decide))) fun _ => .ok _)
  | revoke owner => exact .map (.ite (fun _ => .error (harmless (by decide))) fun _ => .ok _)
  | createVolume => exact .map (createVolume_avoids defect (unused rfl))
  | registerVolume => exact .map (registerBatch_avoids defect (unused rfl))
  | importVolume batchId ttlExpiry =>
    refine .map (.bind (registerBatch_avoids defect (unused rfl)) fun made ok => ?_)
    refine .bind (triggerOne_avoids defect fun active => stored made.2 ?_ _ active) fun _ _ =>
      .ite (fun _ => .error (harmless (by decide))) fun _ => .ok _
    simp only [Call.worlds, ok, triggerWorlds]
    exact List.mem_cons_self ..
  | deleteVolume id =>
    refine .map (.ite (fun _ => .error (harmless (by decide))) fun _ =>
      .ite (fun _ => .error (harmless (by decide))) fun active => ?_)
    exact retire_avoids _ (stored w (List.mem_cons_self ..) id (not_not.mp active))
  | trigger id =>
    exact .map (.bind (triggerOne_avoids defect fun active =>
      stored w (by simp [Call.worlds, triggerWorlds]) id active) fun _ _ => .ok _)
  | triggerMany ids => exact .map (triggerMany_avoids defect stored)
  | reap id =>
    refine .map (.ite (fun _ => .ok _) fun active => .ite (fun _ => ?_) fun _ => .ok _)
    exact retire_avoids _ (stored w (List.mem_cons_self ..) id (not_not.mp active))

end SwarmVolumes.Source
