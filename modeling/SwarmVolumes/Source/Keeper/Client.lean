import SwarmVolumes.Source.Keeper.Events
import SwarmVolumes.Source.Registry.Views

/-!
# The keeper's client

What the keeper asks of its viem client and of the clock. A request is answered
from a world `ω` that it may change, or it throws; nothing else is known of
either, so a result about every client covers every behaviour of the node, of
the network and of other transactions.
-/
namespace SwarmVolumes.Source.Keeper

/-- A thrown value: an `Error` with its message, or another value with its `String`. -/
inductive Thrown where
  | error (message : String)
  | other (text : String)
  deriving DecidableEq, Repr

def message : Thrown → String
  | .error message => message
  | .other text => text

/-- The transaction `trigger` hands to the node. -/
structure Transaction where
  registry : Address
  volumeId : Bytes32
  gas : Nat
  nonce : Nat
  maxFeePerGas : Nat
  maxPriorityFeePerGas : Nat
  deriving DecidableEq, Repr

inductive ReceiptStatus where
  | success | reverted
  deriving DecidableEq, Repr

structure Receipt where
  status : ReceiptStatus
  blockNumber : Nat
  gasUsed : Nat
  logs : List ReceiptLog
  deriving DecidableEq, Repr

/-- The answers to the three requests of `readSending`. -/
structure NonceAndFees where
  nonce : Nat
  baseFeePerGas : Option Nat
  maxPriorityFeePerGas : Nat
  deriving DecidableEq, Repr

abbrev Request (ω α : Type) : Type := ω → Except Thrown α × ω

/-- A multicall answers each of its calls or throws (`allowFailure: false`). The
requests of `readSending` are made at once: all are answered, or one throws. -/
structure Client (ω : Type) where
  now : ω → Int
  getBlockNumber : Request ω (BitVec 256)
  getActiveVolumeCount : Address → (blockNumber : BitVec 256) → Request ω Nat
  getActiveVolumes : Address → (blockNumber : BitVec 256) → (pages : List (Nat × Nat)) →
    Request ω (List (List VolumeView))
  getVolumes : Address → (blockNumber : BitVec 256) → (volumeIds : List Bytes32) →
    Request ω { views : List VolumeView // views.length = volumeIds.length }
  readNonceAndFees : Request ω NonceAndFees
  simulateContract : Address → Bytes32 → Request ω Unit
  estimateContractGas : Address → Bytes32 → Request ω Nat
  writeContract : Transaction → Request ω Bytes32
  waitForTransactionReceipt : (hash : Bytes32) → (confirmations timeout : Nat) → Request ω Receipt

/-- A request whose answer is known. -/
theorem replied {ω α : Type} {reply : Except Thrown α × ω} {answer : Except Thrown α}
    (known : reply.1 = answer) : ∃ w, reply = (answer, w) := by
  obtain ⟨_, w⟩ := reply
  exact ⟨w, congrArg (·, w) known⟩

end SwarmVolumes.Source.Keeper
