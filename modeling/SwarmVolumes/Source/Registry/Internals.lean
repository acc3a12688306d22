import SwarmVolumes.Source.Registry.State

/-!
# Registry internals

`_recordVolume`, `_retire`, `_canPull`, `_triggerOne` and `_registerVolume`
(`VolumeRegistry.sol:251-353,414-493`), each with the checks solc inserts:
overflow, array bounds, `pop` on an empty array. The shifts and the casts of
the array length and the timestamp are unchecked there and truncate here.
-/
namespace SwarmVolumes.Source
open Library

variable {T P : Type}

/-- The volume ID comes from the nonce before it is incremented. -/
def Storage.recordVolume (d : Deployment T P) (s : Storage) (sender : Address)
    (timestamp : Nat) (batchId : Bytes32) (chunkSigner : Address) (depth : UInt8)
    (ttlExpiry : UInt64) : Except Revert (Bytes32 × Storage) :=
  let acct := s.accounts sender
  let n := acct.nonce
  let volumeId := d.volumeId sender n
  let s := s.setAccount sender { acct with nonce := n + 1 }
  if (s.volumes volumeId).status ≠ .none then .error (.require "VOLUMEID_COLLISION")
  else
    let idx := UInt32.ofNat s.activeVolumeIds.length
    let s := s.setVolume volumeId
      { owner := sender, chunkSigner, batchId, createdAt := UInt64.ofNat timestamp,
        ttlExpiry, depth, status := .active, activeIndex := idx }
    .ok (volumeId, { s with activeVolumeIds := s.activeVolumeIds ++ [volumeId] })

/-- The last ID moves into the place `idx` that becomes free. -/
def Storage.moveLast (s : Storage) (idx : UInt32) (last : Nat) : Except Revert Storage :=
  if idx.toNat = last then .ok s
  else do
    let lastId ← orRevert .outOfBounds s.activeVolumeIds[last]?
    if s.activeVolumeIds.length ≤ idx.toNat then .error .outOfBounds
    else
      let s := { s with activeVolumeIds := s.activeVolumeIds.set idx.toNat lastId }
      .ok (s.setVolume lastId ((s.volumes lastId).setIndex idx))

def Storage.popActive (s : Storage) : Except Revert Storage :=
  if s.activeVolumeIds = [] then .error .emptyPop
  else .ok { s with activeVolumeIds := s.activeVolumeIds.dropLast }

/-- `_retire` up to its event: the status, then swap-and-pop. -/
def Storage.retire (s : Storage) (volumeId : Bytes32) : Except Revert Storage := do
  let s := s.setVolume volumeId ((s.volumes volumeId).setStatus .retired)
  let idx := (s.volumes volumeId).activeIndex
  let last ← orRevert .overflow (Word.sub? s.activeVolumeIds.length 1)
  let s ← s.moveLast idx last
  let s ← s.popActive
  .ok (s.setVolume volumeId ((s.volumes volumeId).setIndex 0))

def retire (msg : Msg) (w : World T P) (volumeId : Bytes32) (reason : RetireReason) :
    Except Revert (World T P) := do
  let store ← w.store.retire volumeId
  .ok ({ w with store }.emit msg (.volumeRetired volumeId reason))

/-- `bzz.balanceOf`, `bzz.allowance`, then the legacy permit's expiry, which
only an unlimited allowance can have. -/
def canPull (d : Deployment T P) (w : World T P) (payer : Address) (amount : Nat) :
    Except Revert Bool :=
  if d.token.balanceOf w.bzz payer < amount then .ok false
  else
    let allowed := d.token.allowance w.bzz payer d.address
    if allowed < amount then .ok false
    else if d.bzzPermitExpiry ∧ allowed = Word.unlimited then do
      let expirations ← orRevert .callee d.token.expirations
      let expiry := expirations w.bzz payer d.address
      if expiry ≠ 0 ∧ expiry < w.block.timestamp then .ok false else .ok true
    else .ok true

/-- `require(bzz.transferFrom(payer, address(this), amount), "BZZ_TRANSFER_FAIL")`. -/
def pull (d : Deployment T P) (msg : Msg) (w : World T P) (payer : Address) (amount : Nat) :
    Except Revert (World T P) := do
  let (success, bzz, logs) ← orRevert .callee
    (d.token.transferFrom w.block.timestamp w.bzz d.address payer d.address amount)
  if success then .ok ({ w with bzz }.absorb msg logs)
  else .error (.require "BZZ_TRANSFER_FAIL")

/-- `require(bzz.approve(address(postage), amount), "BZZ_APPROVE_FAIL")`. -/
def approve (d : Deployment T P) (msg : Msg) (w : World T P) (amount : Nat) :
    Except Revert (World T P) := do
  let (success, bzz, logs) ← orRevert .callee
    (d.token.approve w.block.timestamp w.bzz d.address d.postage amount)
  if success then .ok ({ w with bzz }.absorb msg logs)
  else .error (.require "BZZ_APPROVE_FAIL")

/-- `postage.topUp(batchId, deficit)`. -/
def topUp (d : Deployment T P) (msg : Msg) (w : World T P) (batchId : Bytes32) (deficit : Nat) :
    Except Revert (World T P) := do
  let reply ← orRevert .callee
    (d.stamp.topUp w.block w.bzz w.postage d.address batchId deficit)
  .ok ({ w with bzz := reply.bzz, postage := reply.postage }.absorb msg reply.logs)

def skip (msg : Msg) (w : World T P) (volumeId : Bytes32) (reason : SkipReason) :
    Except Revert (TriggerOutcome × World T P) :=
  .ok (.skipped, w.emit msg (.topupSkipped volumeId reason))

def retired (msg : Msg) (w : World T P) (volumeId : Bytes32) (reason : RetireReason) :
    Except Revert (TriggerOutcome × World T P) := do
  let w ← retire msg w volumeId reason
  .ok (.retired, w)

/-- Steps 7 and 8: the prechecked pull, the approval and the top-up. -/
def payDeficit (d : Deployment T P) (msg : Msg) (w : World T P) (volumeId : Bytes32)
    (v : Volume) (payer : Address) (normalisedBalance deficit : Nat) :
    Except Revert (TriggerOutcome × World T P) := do
  let amount := Word.shl deficit v.depth.toNat
  let payable ← canPull d w payer amount
  if payable = false then skip msg w volumeId .paymentFailed
  else
    let w ← pull d msg w payer amount
    let w ← approve d msg w amount
    let w ← topUp d msg w v.batchId deficit
    let newBalance ← orRevert .overflow (Word.add? normalisedBalance deficit)
    .ok (.toppedUp, w.emit msg (.toppedup volumeId amount newBalance))

/-- Steps 5 and 6: the owner's account, then the deficit. -/
def settleDeficit (d : Deployment T P) (msg : Msg) (w : World T P) (volumeId : Bytes32)
    (v : Volume) (normalisedBalance outpayment : Nat) :
    Except Revert (TriggerOutcome × World T P) := do
  let acct := w.store.accounts v.owner
  if acct.active = false then skip msg w volumeId .noAuth
  else
    let remaining ← orRevert .overflow (Word.sub? normalisedBalance outpayment)
    let target ← orRevert .overflow
      (Word.mul? (d.stamp.lastPrice w.postage).toNat d.graceBlocks.toNat)
    if target ≤ remaining then .ok (.noDeficit, w)
    else
      let deficit ← orRevert .overflow (Word.sub? target remaining)
      payDeficit d msg w volumeId v acct.payer normalisedBalance deficit

/-- The trigger steps, once: status, batch dead, owner mismatch, depth changed,
TTL, then account and payment. -/
def triggerOne (d : Deployment T P) (msg : Msg) (w : World T P) (volumeId : Bytes32) :
    Except Revert (TriggerOutcome × World T P) := do
  let v := w.store.volumes volumeId
  if v.status ≠ .active then
    skip msg w volumeId (if v.status = .none then .notFound else .notActive)
  else
    let b := d.stamp.batches w.postage v.batchId
    let outpayment ← orRevert .callee (d.stamp.currentTotalOutPayment w.block w.postage)
    if b.owner = 0 ∨ b.normalisedBalance ≤ outpayment then retired msg w volumeId .batchDied
    else if b.owner ≠ v.chunkSigner then retired msg w volumeId .batchOwnerMismatch
    else if b.depth ≠ v.depth then retired msg w volumeId .depthChanged
    else if v.ttlExpiry ≠ 0 ∧ v.ttlExpiry.toNat ≤ w.block.timestamp then
      retired msg w volumeId .volumeExpired
    else settleDeficit d msg w volumeId v b.normalisedBalance outpayment

/-- `_recordVolume`, at the current block. -/
def recordVolume (d : Deployment T P) (msg : Msg) (w : World T P) (batchId : Bytes32)
    (chunkSigner : Address) (depth : UInt8) (ttlExpiry : UInt64) :
    Except Revert (Bytes32 × World T P) := do
  let (volumeId, store) ← w.store.recordVolume d msg.sender w.block.timestamp batchId
    chunkSigner depth ttlExpiry
  .ok (volumeId, { w with store })

/-- The body `registerVolume` and `importVolume` share: preconditions in order,
the snapshot of the batch's owner and depth, the record and its event. -/
def registerBatch (d : Deployment T P) (msg : Msg) (w : World T P) (batchId : Bytes32)
    (ttlExpiry : UInt64) : Except Revert (Bytes32 × World T P) := do
  let acct := w.store.accounts msg.sender
  if acct.active = false then .error .accountNotActive
  else
    let b := d.stamp.batches w.postage batchId
    if b.owner = 0 then .error .batchNotLive
    else
      let outpayment ← orRevert .callee (d.stamp.currentTotalOutPayment w.block w.postage)
      if b.normalisedBalance ≤ outpayment then .error .batchNotLive
      else if b.depth ≤ d.stamp.minimumBucketDepth w.postage then .error .batchDepthTooSmall
      else
        let (volumeId, w) ← recordVolume d msg w batchId b.owner b.depth ttlExpiry
        .ok (volumeId, w.emit msg
          (.volumeImported volumeId msg.sender batchId b.owner b.depth ttlExpiry
            b.normalisedBalance))

end SwarmVolumes.Source
