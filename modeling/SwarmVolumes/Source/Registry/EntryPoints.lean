import SwarmVolumes.Source.Registry.Internals

/-!
# Entry points and transactions

The external functions of `VolumeRegistry.sol:104-246`, one value of `Call` for
each, and what a call does to the world: a call that reverts leaves it as it
was.
-/
namespace SwarmVolumes.Source
open Library

variable {T P : Type}

def designateFundingWallet (msg : Msg) (w : World T P) (payer : Address) : World T P :=
  { w with store := { w.store with
      designated := Function.update w.store.designated msg.sender payer } }.emit msg
    (.payerDesignated msg.sender payer)

/-- `payer` and `active` are written one by one; the nonce stays. -/
def confirmAuth (msg : Msg) (w : World T P) (owner : Address) : Except Revert (World T P) :=
  if w.store.designated owner ≠ msg.sender then .error .notDesignated
  else
    let acct := w.store.accounts owner
    let store := w.store.setAccount owner { acct with payer := msg.sender, active := true }
    .ok ({ w with store }.emit msg (.accountActivated owner msg.sender))

def revoke (msg : Msg) (w : World T P) (owner : Address) : Except Revert (World T P) :=
  let acct := w.store.accounts owner
  if msg.sender ≠ owner ∧ msg.sender ≠ acct.payer then .error .notAuthorizedToRevoke
  else
    let store := w.store.setAccount owner { acct with active := false }
    .ok ({ w with store }.emit msg (.accountRevoked owner acct.payer msg.sender))

/-- `postage.createBatch(...)` with the pre-increment `nextNonce`, whose
increment is unchecked. -/
def createBatch (d : Deployment T P) (msg : Msg) (w : World T P) (chunkSigner : Address)
    (perChunk : Nat) (depth bucketDepth : UInt8) (immutableBatch : Bool) :
    Except Revert (Bytes32 × World T P) := do
  let nonce := w.store.nextNonce
  let store := { w.store with nextNonce := nonce + 1 }
  let reply ← orRevert .callee (d.stamp.createBatch w.block w.bzz w.postage d.address
    chunkSigner perChunk depth bucketDepth nonce immutableBatch)
  if reply.value ≠ d.keccak256 [abiAddress d.address, nonce] then
    .error (.require "BATCHID_MISMATCH")
  else .ok (reply.value,
    { w with store, bzz := reply.bzz, postage := reply.postage }.absorb msg reply.logs)

def createVolume (d : Deployment T P) (msg : Msg) (w : World T P) (chunkSigner : Address)
    (depth bucketDepth : UInt8) (ttlExpiry : UInt64) (immutableBatch : Bool) :
    Except Revert (Bytes32 × World T P) := do
  let acct := w.store.accounts msg.sender
  if acct.active = false then .error .accountNotActive
  else if chunkSigner = 0 then .error .zeroAddress
  else
    let perChunk ← orRevert .overflow
      (Word.mul? (d.stamp.lastPrice w.postage).toNat d.graceBlocks.toNat)
    let totalCharge := Word.shl perChunk depth.toNat
    let w ← pull d msg w acct.payer totalCharge
    let w ← approve d msg w totalCharge
    let (batchId, w) ← createBatch d msg w chunkSigner perChunk depth bucketDepth immutableBatch
    let (volumeId, w) ← recordVolume d msg w batchId chunkSigner depth ttlExpiry
    .ok (volumeId, w.emit msg
      (.volumeCreated volumeId msg.sender batchId chunkSigner depth ttlExpiry))

def registerVolume (d : Deployment T P) (msg : Msg) (w : World T P) (batchId : Bytes32)
    (ttlExpiry : UInt64) : Except Revert (Bytes32 × World T P) :=
  registerBatch d msg w batchId ttlExpiry

def importVolume (d : Deployment T P) (msg : Msg) (w : World T P) (batchId : Bytes32)
    (ttlExpiry : UInt64) : Except Revert (Bytes32 × World T P) := do
  let (volumeId, w) ← registerBatch d msg w batchId ttlExpiry
  let (outcome, w) ← triggerOne d msg w volumeId
  if outcome ≠ .toppedUp ∧ outcome ≠ .noDeficit then .error .importTopupFailed
  else .ok (volumeId, w)

def deleteVolume (msg : Msg) (w : World T P) (volumeId : Bytes32) : Except Revert (World T P) :=
  let v := w.store.volumes volumeId
  if v.owner ≠ msg.sender then .error .notVolumeOwner
  else if v.status ≠ .active then .error .volumeNotActive
  else retire msg w volumeId .ownerDeleted

def trigger (d : Deployment T P) (msg : Msg) (w : World T P) (volumeId : Bytes32) :
    Except Revert (World T P) := do
  let (_, w) ← triggerOne d msg w volumeId
  .ok w

/-- `trigger(bytes32[])`: the loop, front to back. -/
def triggerMany (d : Deployment T P) (msg : Msg) (w : World T P) :
    List Bytes32 → Except Revert (World T P)
  | [] => .ok w
  | volumeId :: volumeIds => do
    let w ← trigger d msg w volumeId
    triggerMany d msg w volumeIds

def reap (msg : Msg) (w : World T P) (volumeId : Bytes32) : Except Revert (World T P) :=
  let v := w.store.volumes volumeId
  if v.status ≠ .active then .ok w
  else if v.ttlExpiry ≠ 0 ∧ v.ttlExpiry.toNat ≤ w.block.timestamp then
    retire msg w volumeId .volumeExpired
  else .ok w

inductive Call where
  | designateFundingWallet (payer : Address)
  | confirmAuth (owner : Address)
  | revoke (owner : Address)
  | createVolume (chunkSigner : Address) (depth bucketDepth : UInt8) (ttlExpiry : UInt64)
      (immutableBatch : Bool)
  | registerVolume (batchId : Bytes32) (ttlExpiry : UInt64)
  | importVolume (batchId : Bytes32) (ttlExpiry : UInt64)
  | deleteVolume (volumeId : Bytes32)
  | trigger (volumeId : Bytes32)
  | triggerMany (volumeIds : List Bytes32)
  | reap (volumeId : Bytes32)
  deriving DecidableEq, Repr

/-- A call's value, the volume ID of a creating call, and the world after it. -/
def execute (d : Deployment T P) (msg : Msg) (w : World T P) :
    Call → Except Revert (Option Bytes32 × World T P)
  | .designateFundingWallet payer => .ok (none, designateFundingWallet msg w payer)
  | .confirmAuth owner => (confirmAuth msg w owner).map (none, ·)
  | .revoke owner => (revoke msg w owner).map (none, ·)
  | .createVolume chunkSigner depth bucketDepth ttlExpiry immutableBatch =>
    (createVolume d msg w chunkSigner depth bucketDepth ttlExpiry immutableBatch).map
      fun (volumeId, w) => (some volumeId, w)
  | .registerVolume batchId ttlExpiry =>
    (registerVolume d msg w batchId ttlExpiry).map fun (volumeId, w) => (some volumeId, w)
  | .importVolume batchId ttlExpiry =>
    (importVolume d msg w batchId ttlExpiry).map fun (volumeId, w) => (some volumeId, w)
  | .deleteVolume volumeId => (deleteVolume msg w volumeId).map (none, ·)
  | .trigger volumeId => (trigger d msg w volumeId).map (none, ·)
  | .triggerMany volumeIds => (triggerMany d msg w volumeIds).map (none, ·)
  | .reap volumeId => (reap msg w volumeId).map (none, ·)

/-- The world after a call that may revert. -/
def transact (d : Deployment T P) (msg : Msg) (w : World T P) (call : Call) : World T P :=
  match execute d msg w call with
  | .ok (_, after) => after
  | .error _ => w

end SwarmVolumes.Source
