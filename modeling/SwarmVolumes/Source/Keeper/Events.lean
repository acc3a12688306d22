import SwarmVolumes.Source.Registry.State

/-!
# Receipts

`abi.ts` and `events.ts`: the events of a trigger receipt under the keeper's
ABI, its two tables of reasons, and the reduction of a receipt to the outcome
of one volume. Hexadecimal strings are compared there without regard to case,
so IDs and addresses are words here.
-/
namespace SwarmVolumes.Source

/-- The `uint8` of a member of `RetireReason`. -/
def RetireReason.value : RetireReason → Nat
  | .none => 0
  | .ownerDeleted => 1
  | .volumeExpired => 2
  | .batchDied => 3
  | .depthChanged => 4
  | .batchOwnerMismatch => 5

/-- Its name in `IVolumeRegistryViews.sol`. -/
def RetireReason.member : RetireReason → String
  | .none => "None"
  | .ownerDeleted => "OwnerDeleted"
  | .volumeExpired => "VolumeExpired"
  | .batchDied => "BatchDied"
  | .depthChanged => "DepthChanged"
  | .batchOwnerMismatch => "BatchOwnerMismatch"

def SkipReason.value : SkipReason → Nat
  | .none => 0
  | .noAuth => 1
  | .paymentFailed => 2
  | .notFound => 3
  | .notActive => 4

def SkipReason.member : SkipReason → String
  | .none => "None"
  | .noAuth => "NoAuth"
  | .paymentFailed => "PaymentFailed"
  | .notFound => "NotFound"
  | .notActive => "NotActive"

namespace Keeper

/-- The events of `registryAbi`, as viem decodes them. -/
inductive KeeperEvent where
  | toppedup (volumeId : Bytes32) (amount newNormalisedBalance : Nat)
  | topupSkipped (volumeId : Bytes32) (reason : Nat)
  | volumeRetired (volumeId : Bytes32) (reason : Nat)
  deriving DecidableEq, Repr

/-- A log of a receipt: the contract that emitted it, and what it decodes to under
`registryAbi`, if anything. -/
structure ReceiptLog where
  address : Address
  decoded : Option KeeperEvent
  deriving DecidableEq, Repr

/-- `parseEventLogs`: the events of the logs that match the ABI, in order. -/
def parseEventLogs (logs : List ReceiptLog) : List KeeperEvent := logs.filterMap ReceiptLog.decoded

/-- `RETIRE_REASONS`. -/
def retireReasons : List (Nat × String) :=
  [(1, "OwnerDeleted"), (2, "VolumeExpired"), (3, "BatchDied"), (4, "DepthChanged"),
    (5, "BatchOwnerMismatch")]

/-- `SKIP_REASONS`. -/
def skipReasons : List (Nat × String) := [(1, "NoAuth"), (2, "PaymentFailed")]

def name (table : List (Nat × String)) (reason : Nat) : String :=
  (table.lookup reason).getD s!"Unknown({reason})"

structure VolumeOutcome where
  volumeId : Bytes32
  reason : String
  deriving DecidableEq, Repr

structure ToppedUp where
  volumeId : Bytes32
  amount : Nat
  deriving DecidableEq, Repr

structure DecodedEvents where
  toppedUp : List ToppedUp
  retired : List VolumeOutcome
  topupSkipped : List VolumeOutcome
  deriving DecidableEq, Repr

def DecodedEvents.empty : DecodedEvents := ⟨[], [], []⟩

/-- The body of the loop over the decoded logs. -/
def DecodedEvents.push (decoded : DecodedEvents) : KeeperEvent → DecodedEvents
  | .toppedup volumeId amount _ =>
    { decoded with toppedUp := decoded.toppedUp ++ [⟨volumeId, amount⟩] }
  | .volumeRetired volumeId reason =>
    { decoded with retired := decoded.retired ++ [⟨volumeId, name retireReasons reason⟩] }
  | .topupSkipped volumeId reason =>
    { decoded with topupSkipped := decoded.topupSkipped ++ [⟨volumeId, name skipReasons reason⟩] }

def decodeCycleEvents (logs : List ReceiptLog) (registry : Address) : DecodedEvents :=
  let fromRegistry := logs.filter fun log => log.address = registry
  (parseEventLogs fromRegistry).foldl DecodedEvents.push .empty

/-- `VolumeSummary`, discriminated on its outcome. -/
inductive VolumeSummary where
  | toppedUp (amount : Nat)
  | retired (reason : String)
  | topupSkipped (reason : String)
  | noop
  deriving DecidableEq, Repr

def summarizeVolume (decoded : DecodedEvents) (volumeId : Bytes32) : VolumeSummary :=
  match decoded.toppedUp.find? fun e => e.volumeId = volumeId with
  | some toppedUp => .toppedUp toppedUp.amount
  | none =>
    match decoded.retired.find? fun e => e.volumeId = volumeId with
    | some retired => .retired retired.reason
    | none =>
      match decoded.topupSkipped.find? fun e => e.volumeId = volumeId with
      | some skipped => .topupSkipped skipped.reason
      | none => .noop

/-! ## The receipt of a call -/

variable {T P : Type}

/-- What a registry event decodes to: the ABI has three of them. -/
def decodeEvent : Event → Option KeeperEvent
  | .toppedup volumeId amount newNormalisedBalance =>
    some (.toppedup volumeId amount newNormalisedBalance)
  | .volumeRetired volumeId reason => some (.volumeRetired volumeId reason.value)
  | .topupSkipped volumeId reason => some (.topupSkipped volumeId reason.value)
  | _ => none

/-- A log as its receipt has it. What the logs of other contracts decode to under
`registryAbi` is `stray`. -/
def receiptLog (d : Deployment T P) (stray : CalleeLog → Option KeeperEvent) : Log → ReceiptLog
  | .registry event => ⟨d.address, decodeEvent event⟩
  | .callee (.transfer src dst value) => ⟨d.bzz, stray (.transfer src dst value)⟩
  | .callee (.other emitter) => ⟨emitter, stray (.other emitter)⟩

/-- The logs of the transaction that took the registry from `w` to `w'`. -/
def receiptLogs (d : Deployment T P) (stray : CalleeLog → Option KeeperEvent) (w w' : World T P) :
    List ReceiptLog :=
  (w'.logs.drop w.logs.length).map fun record => receiptLog d stray record.log

end Keeper
end SwarmVolumes.Source
