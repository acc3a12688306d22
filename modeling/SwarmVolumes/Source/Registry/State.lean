import SwarmVolumes.Source.Callees
import Mathlib.Logic.Function.Basic

/-!
# Registry state

`IVolumeRegistryViews.sol` (types, events, errors) and the storage, immutables
and constructor of `VolumeRegistry.sol:31-98`. Solidity's fixed-width fields
keep their widths; a `uint256` amount is a natural number whose arithmetic is
checked where solc checks it.
-/
namespace SwarmVolumes.Source
open Library

inductive Status where
  | none | active | retired
  deriving DecidableEq, Repr

inductive RetireReason where
  | none | ownerDeleted | volumeExpired | batchDied | depthChanged | batchOwnerMismatch
  deriving DecidableEq, Repr

inductive SkipReason where
  | none | noAuth | paymentFailed | notFound | notActive
  deriving DecidableEq, Repr

/-- How one run of the trigger steps ended. -/
inductive TriggerOutcome where
  | retired | skipped | noDeficit | toppedUp
  deriving DecidableEq, Repr

structure Account where
  payer : Address
  active : Bool
  nonce : UInt64
  deriving DecidableEq, Repr

structure Volume where
  owner : Address
  chunkSigner : Address
  batchId : Bytes32
  createdAt : UInt64
  ttlExpiry : UInt64
  depth : UInt8
  status : Status
  activeIndex : UInt32
  deriving DecidableEq, Repr

inductive Event where
  | volumeCreated (volumeId : Bytes32) (owner : Address) (batchId : Bytes32)
      (chunkSigner : Address) (depth : UInt8) (ttlExpiry : UInt64)
  | volumeImported (volumeId : Bytes32) (owner : Address) (batchId : Bytes32)
      (chunkSigner : Address) (depth : UInt8) (ttlExpiry : UInt64) (normalisedBalance : Nat)
  | volumeRetired (volumeId : Bytes32) (reason : RetireReason)
  | payerDesignated (owner payer : Address)
  | accountActivated (owner payer : Address)
  | accountRevoked (owner payer revoker : Address)
  | toppedup (volumeId : Bytes32) (amount newNormalisedBalance : Nat)
  | topupSkipped (volumeId : Bytes32) (reason : SkipReason)
  deriving DecidableEq, Repr

/-- Why a call reverts: the declared errors, a failed `require`, a panic, or a
revert of a called contract passed on. -/
inductive Revert where
  | zeroAddress
  | graceBlocksBelowFloor (provided floor : UInt64)
  | accountNotActive
  | notVolumeOwner
  | volumeNotActive
  | notDesignated
  | notAuthorizedToRevoke
  | batchNotLive
  | batchDepthTooSmall
  | importTopupFailed
  | require (message : String)
  | panic (code : Nat)
  | callee
  deriving DecidableEq, Repr

/-- `Panic(0x11)`, arithmetic overflow or underflow. -/
def Revert.overflow : Revert := .panic 0x11

/-- `Panic(0x32)`, array index out of bounds. -/
def Revert.outOfBounds : Revert := .panic 0x32

/-- `Panic(0x31)`, `pop` on an empty array. -/
def Revert.emptyPop : Revert := .panic 0x31

def orRevert {α : Type} (e : Revert) : Option α → Except Revert α
  | some a => .ok a
  | Option.none => .error e

structure Storage where
  volumes : Bytes32 → Volume
  designated : Address → Address
  accounts : Address → Account
  activeVolumeIds : List Bytes32
  nextNonce : BitVec 256

def Volume.zero : Volume := ⟨0, 0, 0, 0, 0, 0, .none, 0⟩
def Account.zero : Account := ⟨0, false, 0⟩

def Volume.setStatus (v : Volume) (status : Status) : Volume := { v with status }
def Volume.setIndex (v : Volume) (activeIndex : UInt32) : Volume := { v with activeIndex }

/-- The fields of a record that nothing rewrites. -/
def Volume.written (v : Volume) : Address × Address × Bytes32 × UInt64 × UInt64 × UInt8 :=
  (v.owner, v.chunkSigner, v.batchId, v.createdAt, v.ttlExpiry, v.depth)

section
variable (v : Volume) (status : Status) (idx : UInt32)

@[simp] theorem Volume.setStatus_status : (v.setStatus status).status = status := rfl
@[simp] theorem Volume.setStatus_index : (v.setStatus status).activeIndex = v.activeIndex := rfl
@[simp] theorem Volume.setStatus_written : (v.setStatus status).written = v.written := rfl
@[simp] theorem Volume.setIndex_status : (v.setIndex idx).status = v.status := rfl
@[simp] theorem Volume.setIndex_index : (v.setIndex idx).activeIndex = idx := rfl
@[simp] theorem Volume.setIndex_written : (v.setIndex idx).written = v.written := rfl

end

/-- Every slot reads as zero. -/
def Storage.empty : Storage :=
  ⟨fun _ => .zero, fun _ => 0, fun _ => .zero, [], 0⟩

namespace Storage

def setVolume (s : Storage) (id : Bytes32) (v : Volume) : Storage :=
  { s with volumes := Function.update s.volumes id v }

def setAccount (s : Storage) (owner : Address) (a : Account) : Storage :=
  { s with accounts := Function.update s.accounts owner a }

variable (s : Storage) (id other : Bytes32) (v : Volume) (owner : Address) (a : Account)

@[simp] theorem setVolume_same : (s.setVolume id v).volumes id = v := Function.update_self ..
@[simp] theorem setVolume_ids : (s.setVolume id v).activeVolumeIds = s.activeVolumeIds := rfl
@[simp] theorem setVolume_accounts : (s.setVolume id v).accounts = s.accounts := rfl
@[simp] theorem setVolume_designated : (s.setVolume id v).designated = s.designated := rfl
@[simp] theorem setVolume_nextNonce : (s.setVolume id v).nextNonce = s.nextNonce := rfl
@[simp] theorem setAccount_same : (s.setAccount owner a).accounts owner = a := Function.update_self ..
@[simp] theorem setAccount_volumes : (s.setAccount owner a).volumes = s.volumes := rfl
@[simp] theorem setAccount_ids : (s.setAccount owner a).activeVolumeIds = s.activeVolumeIds := rfl
@[simp] theorem setAccount_designated : (s.setAccount owner a).designated = s.designated := rfl

variable {s id other v owner a}

theorem setVolume_volumes (x : Bytes32) :
    (s.setVolume id v).volumes x = if x = id then v else s.volumes x :=
  Function.update_apply ..

theorem setAccount_accounts (o : Address) :
    (s.setAccount owner a).accounts o = if o = owner then a else s.accounts o :=
  Function.update_apply ..

theorem setVolume_other (different : other ≠ id) :
    (s.setVolume id v).volumes other = s.volumes other :=
  Function.update_of_ne different ..

theorem setAccount_other {o : Address} (different : o ≠ owner) :
    (s.setAccount owner a).accounts o = s.accounts o :=
  Function.update_of_ne different ..

end Storage

/-- One deployed registry: its address, its immutables, the two contracts it is
wired to, and the hash of a sequence of ABI words. -/
structure Deployment (T P : Type) where
  address : Address
  postage : Address
  bzz : Address
  graceBlocks : UInt64
  bzzPermitExpiry : Bool
  token : Bzz T
  stamp : PostageStamp T P
  keccak256 : List (BitVec 256) → Bytes32

/-- A `Log` as the chain keeps it, with its block and transaction. -/
inductive Log where
  | registry (event : Event)
  | callee (log : CalleeLog)
  deriving DecidableEq, Repr

structure Record where
  block : Block
  tx : Bytes32
  log : Log
  deriving DecidableEq, Repr

/-- The registry's storage, the states of the contracts it calls, the current
block, and every log of its calls so far. -/
structure World (T P : Type) where
  store : Storage
  bzz : T
  postage : P
  block : Block
  logs : List Record

/-- The caller of an entry point and the transaction it calls from. -/
structure Msg where
  sender : Address
  tx : Bytes32
  deriving DecidableEq, Repr

variable {T P : Type}

def World.emit (w : World T P) (msg : Msg) (event : Event) : World T P :=
  { w with logs := w.logs ++ [⟨w.block, msg.tx, .registry event⟩] }

def World.absorb (w : World T P) (msg : Msg) (logs : List CalleeLog) : World T P :=
  { w with logs := w.logs ++ logs.map fun log => ⟨w.block, msg.tx, .callee log⟩ }

/-- `abi.encode` of an address: its word, zero-extended. -/
def abiAddress (a : Address) : BitVec 256 := a.setWidth 256

def abiUint64 (n : UInt64) : BitVec 256 := n.toBitVec.setWidth 256

/-- `keccak256(abi.encode(owner, n))`. -/
def Deployment.volumeId (d : Deployment T P) (owner : Address) (n : UInt64) : Bytes32 :=
  d.keccak256 [abiAddress owner, abiUint64 n]

/-- The constructor's checks, in order; the storage of a new contract is zero.
`expirations` is called only when the flag is set, and reverts on a token
without it. -/
def construct (d : Deployment T P) (postage : P) : Except Revert Storage :=
  if d.postage = 0 ∨ d.bzz = 0 then .error .zeroAddress
  else
    let floor := d.stamp.minimumValidityBlocks postage
    if d.graceBlocks < floor then .error (.graceBlocksBelowFloor d.graceBlocks floor)
    else if d.bzzPermitExpiry && d.token.expirations.isNone then .error .callee
    else .ok .empty

end SwarmVolumes.Source
