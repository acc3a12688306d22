import SwarmVolumes.Library.Erc20

/-!
# The contracts the registry calls

`interfaces/IPostageStampLike.sol`, `IERC20Like.sol` and
`IPermittableTokenLike.sol`. PostageStamp and BZZ are deployed separately, so
their states are the type parameters `P` and `T` and their functions are fields
of an interface. What the registry relies on is stated beside it: DESIGN §14
for PostageStamp, ADR-0007 for the two BZZ tokens. Neither calls the registry.
-/
namespace SwarmVolumes.Source
open Library Library.Erc20

abbrev Address := BitVec 160
abbrev Bytes32 := BitVec 256

/-- `block.number` and `block.timestamp`. -/
structure Block where
  number : Nat
  timestamp : Nat
  deriving DecidableEq, Repr

/-- A log another contract emits while the registry calls it: a BZZ `Transfer`,
or one that neither the registry nor the indexer reads. -/
inductive CalleeLog where
  | transfer (src dst : Address) (value : Nat)
  | other (emitter : Address)
  deriving DecidableEq, Repr

def CalleeLog.transfer? : CalleeLog → Option (Address × Address × Nat)
  | .transfer src dst value => some (src, dst, value)
  | .other _ => none

/-- The tuple `batches(id)` returns; a batch that does not exist has owner 0. -/
structure Batch where
  owner : Address
  depth : UInt8
  bucketDepth : UInt8
  immutableFlag : Bool
  normalisedBalance : Nat
  lastUpdatedBlockNumber : Nat
  deriving DecidableEq, Repr

/-- BZZ, with the `expirations` getter of the OmniBridge token where it exists. -/
structure Bzz (T : Type) extends Token Address T CalleeLog where
  expirations : Option (T → Address → Address → Nat)

/-- What a PostageStamp call that does not revert leaves behind. It calls BZZ,
so it changes both states. -/
structure PostageReply (T P α : Type) where
  value : α
  bzz : T
  postage : P
  logs : List CalleeLog

/-- `currentTotalOutPayment` is checked arithmetic over the blocks since the
last price change, so it may revert (`none`). -/
structure PostageStamp (T P : Type) where
  batches : P → Bytes32 → Batch
  currentTotalOutPayment : Block → P → Option Nat
  lastPrice : P → UInt64
  minimumValidityBlocks : P → UInt64
  minimumBucketDepth : P → UInt8
  paused : P → Bool
  createBatch : Block → T → P → (sender owner : Address) → (initialBalancePerChunk : Nat) →
    (depth bucketDepth : UInt8) → (nonce : Bytes32) → (immutableFlag : Bool) →
    Option (PostageReply T P Bytes32)
  topUp : Block → T → P → (sender : Address) → (batchId : Bytes32) →
    (topupAmountPerChunk : Nat) → Option (PostageReply T P Unit)

section

variable {T P : Type}

/-- Both BZZ tokens: a standard ERC-20 whose `transferFrom` emits one `Transfer`
and whose `approve` emits none, and where neither touches the permit expiry of
another pair. -/
structure Bzz.Documented (bzz : Bzz T) : Prop extends bzz.Standard where
  transferFrom_logs : ∀ {now t sender src dst n t' logs},
    bzz.transferFrom now t sender src dst n = some (true, t', logs) →
    logs.filterMap CalleeLog.transfer? = [(src, dst, n)]
  approve_logs : ∀ {now t sender spender n t' logs},
    bzz.approve now t sender spender n = some (true, t', logs) →
    logs.filterMap CalleeLog.transfer? = []
  transferFrom_expirations : ∀ {now t sender src dst n t' logs expirations},
    bzz.expirations = some expirations →
    bzz.transferFrom now t sender src dst n = some (true, t', logs) →
    expirations t' = expirations t
  approve_expirations : ∀ {now t sender spender n t' logs expirations},
    bzz.expirations = some expirations →
    bzz.approve now t sender spender n = some (true, t', logs) →
    ∀ o s, o ≠ sender → expirations t' o s = expirations t o s

/-- When `transferFrom` succeeds: balance and allowance suffice and an unlimited
allowance has not outlived its legacy permit (`permitExpiry`). `approve`
succeeds. -/
structure Bzz.Pays (bzz : Bzz T) (permitExpiry : Bool) : Prop where
  transferFrom_succeeds : ∀ {now t sender src dst n},
    src ≠ 0 → dst ≠ 0 → sender ≠ src →
    n ≤ bzz.balanceOf t src → n ≤ bzz.allowance t src sender →
    (permitExpiry = true → bzz.allowance t src sender = Word.unlimited →
      ∀ expirations, bzz.expirations = some expirations →
        expirations t src sender = 0 ∨ now ≤ expirations t src sender) →
    ∃ t' logs, bzz.transferFrom now t sender src dst n = some (true, t', logs)
  approve_succeeds : ∀ {now t sender spender n}, sender ≠ 0 → spender ≠ 0 → n < Word.modulus →
    ∃ t' logs, bzz.approve now t sender spender n = some (true, t', logs)

/-- `transferFrom` on an unlimited allowance consults the legacy permit's expiry. -/
structure Bzz.Expires (bzz : Bzz T) : Prop where
  transferFrom_current : ∀ {now t sender src dst n t' logs expirations},
    sender ≠ src → bzz.expirations = some expirations →
    bzz.transferFrom now t sender src dst n = some (true, t', logs) →
    bzz.allowance t src sender = Word.unlimited →
    expirations t src sender = 0 ∨ now ≤ expirations t src sender

/-- `batchSize * perChunk`, the BZZ PostageStamp pulls. -/
def batchCost (perChunk : Nat) (depth : UInt8) : Nat := perChunk * 2 ^ depth.toNat

/-- PostageStamp at `address` (DESIGN §14). Both calls make one BZZ call, a pull of
the checked product of per-chunk amount and batch size from their sender.
`topUp` adds exactly the given amount to the batch it names and changes neither
the price nor the outpayment; `createBatch` refuses a shallow batch. -/
structure PostageStamp.Documented (stamp : PostageStamp T P) (bzz : Bzz T) (address : Address) :
    Prop where
  createBatch_pulls : ∀ {b t p sender owner perChunk depth bucketDepth nonce immutableFlag r},
    stamp.createBatch b t p sender owner perChunk depth bucketDepth nonce immutableFlag = some r →
    batchCost perChunk depth < Word.modulus ∧
    ∃ logs, bzz.transferFrom b.timestamp t address sender address (batchCost perChunk depth) =
        some (true, r.bzz, logs) ∧
      r.logs.filterMap CalleeLog.transfer? = logs.filterMap CalleeLog.transfer?
  createBatch_deep : ∀ {b t p sender owner perChunk depth bucketDepth nonce immutableFlag r},
    stamp.createBatch b t p sender owner perChunk depth bucketDepth nonce immutableFlag = some r →
    stamp.minimumBucketDepth p < depth ∧
    stamp.minimumBucketDepth r.postage = stamp.minimumBucketDepth p
  topUp_pulls : ∀ {b t p sender id perChunk r},
    stamp.topUp b t p sender id perChunk = some r →
    batchCost perChunk (stamp.batches p id).depth < Word.modulus ∧
    ∃ logs, bzz.transferFrom b.timestamp t address sender address
        (batchCost perChunk (stamp.batches p id).depth) = some (true, r.bzz, logs) ∧
      r.logs.filterMap CalleeLog.transfer? = logs.filterMap CalleeLog.transfer?
  topUp_batch : ∀ {b t p sender id perChunk r},
    stamp.topUp b t p sender id perChunk = some r →
    (stamp.batches r.postage id).owner = (stamp.batches p id).owner ∧
    (stamp.batches r.postage id).depth = (stamp.batches p id).depth ∧
    (stamp.batches r.postage id).normalisedBalance =
      (stamp.batches p id).normalisedBalance + perChunk
  topUp_frame : ∀ {b t p sender id perChunk r},
    stamp.topUp b t p sender id perChunk = some r →
    (∀ other, other ≠ id → stamp.batches r.postage other = stamp.batches p other) ∧
    (∀ now, stamp.currentTotalOutPayment now r.postage = stamp.currentTotalOutPayment now p) ∧
    stamp.lastPrice r.postage = stamp.lastPrice p ∧
    stamp.minimumValidityBlocks r.postage = stamp.minimumValidityBlocks p ∧
    stamp.minimumBucketDepth r.postage = stamp.minimumBucketDepth p ∧
    stamp.paused r.postage = stamp.paused p

/-- When `topUp` succeeds: the contract is not paused, the batch exists, is not
expired and is deep enough, the balance it ends with covers the minimum
validity, nothing overflows and the pull succeeds. -/
structure PostageStamp.Accepts (stamp : PostageStamp T P) (bzz : Bzz T) (address : Address) :
    Prop where
  topUp_succeeds : ∀ {b t p sender id perChunk outpayment t' logs},
    stamp.paused p = false →
    (stamp.batches p id).owner ≠ 0 →
    stamp.currentTotalOutPayment b p = some outpayment →
    outpayment < (stamp.batches p id).normalisedBalance →
    stamp.minimumBucketDepth p < (stamp.batches p id).depth →
    (stamp.minimumValidityBlocks p).toNat * (stamp.lastPrice p).toNat ≤
      (stamp.batches p id).normalisedBalance - outpayment + perChunk →
    (stamp.batches p id).normalisedBalance + perChunk < Word.modulus →
    batchCost perChunk (stamp.batches p id).depth < Word.modulus →
    bzz.transferFrom b.timestamp t address sender address
      (batchCost perChunk (stamp.batches p id).depth) = some (true, t', logs) →
    ∃ r, stamp.topUp b t p sender id perChunk = some r

/-- A PostageStamp call changes the batch it names and no other: `topUp` its
balance, `createBatch` an ID no batch has yet. -/
structure PostageStamp.Contained (stamp : PostageStamp T P) : Prop where
  createBatch_fresh : ∀ {b t p sender owner perChunk depth bucketDepth nonce immutableFlag r},
    stamp.createBatch b t p sender owner perChunk depth bucketDepth nonce immutableFlag = some r →
    (stamp.batches p r.value).owner = 0
  createBatch_other : ∀ {b t p sender owner perChunk depth bucketDepth nonce immutableFlag r other},
    stamp.createBatch b t p sender owner perChunk depth bucketDepth nonce immutableFlag = some r →
    other ≠ r.value → stamp.batches r.postage other = stamp.batches p other
  topUp_balance : ∀ {b t p sender id perChunk r},
    stamp.topUp b t p sender id perChunk = some r →
    stamp.batches r.postage id = { stamp.batches p id with
      normalisedBalance := (stamp.batches p id).normalisedBalance + perChunk }
  topUp_other : ∀ {b t p sender id perChunk r other},
    stamp.topUp b t p sender id perChunk = some r →
    other ≠ id → stamp.batches r.postage other = stamp.batches p other

/-- `createBatch` credits the new batch with its initial balance on top of the
outpayment, and changes neither the outpayment nor the price. -/
structure PostageStamp.Credits (stamp : PostageStamp T P) : Prop where
  createBatch_batch : ∀ {b t p sender owner perChunk depth bucketDepth nonce immutableFlag r},
    stamp.createBatch b t p sender owner perChunk depth bucketDepth nonce immutableFlag = some r →
    ∃ outpayment, stamp.currentTotalOutPayment b p = some outpayment ∧
      (stamp.batches r.postage r.value).owner = owner ∧
      (stamp.batches r.postage r.value).normalisedBalance = outpayment + perChunk
  createBatch_frame : ∀ {b t p sender owner perChunk depth bucketDepth nonce immutableFlag r},
    stamp.createBatch b t p sender owner perChunk depth bucketDepth nonce immutableFlag = some r →
    (∀ now, stamp.currentTotalOutPayment now r.postage = stamp.currentTotalOutPayment now p) ∧
    stamp.lastPrice r.postage = stamp.lastPrice p

/-- `createBatch` and the batches that exist: it uses an ID no batch has, leaves a
live batch alone and adds to no other. -/
structure PostageStamp.Spares (stamp : PostageStamp T P) : Prop where
  createBatch_fresh : ∀ {b t p sender owner perChunk depth bucketDepth nonce immutableFlag r},
    stamp.createBatch b t p sender owner perChunk depth bucketDepth nonce immutableFlag = some r →
    (stamp.batches p r.value).owner = 0
  createBatch_live : ∀ {b t p sender owner perChunk depth bucketDepth nonce immutableFlag r other
      outpayment},
    stamp.createBatch b t p sender owner perChunk depth bucketDepth nonce immutableFlag = some r →
    other ≠ r.value → stamp.currentTotalOutPayment b p = some outpayment →
    outpayment < (stamp.batches p other).normalisedBalance →
    stamp.batches r.postage other = stamp.batches p other
  createBatch_balance : ∀ {b t p sender owner perChunk depth bucketDepth nonce immutableFlag r
      other},
    stamp.createBatch b t p sender owner perChunk depth bucketDepth nonce immutableFlag = some r →
    other ≠ r.value →
    (stamp.batches r.postage other).normalisedBalance ≤ (stamp.batches p other).normalisedBalance

/-- `createBatch` gives the new batch the depth it was called with. -/
structure PostageStamp.Records (stamp : PostageStamp T P) : Prop where
  createBatch_depth : ∀ {b t p sender owner perChunk depth bucketDepth nonce immutableFlag r},
    stamp.createBatch b t p sender owner perChunk depth bucketDepth nonce immutableFlag = some r →
    (stamp.batches r.postage r.value).depth = depth

theorem PostageStamp.Contained.spares {stamp : PostageStamp T P} (contained : stamp.Contained) :
    stamp.Spares where
  createBatch_fresh := contained.createBatch_fresh
  createBatch_live made different _ _ := contained.createBatch_other made different
  createBatch_balance made different := by rw [contained.createBatch_other made different]

end
end SwarmVolumes.Source
