import SwarmVolumes.Library.Bisect
import SwarmVolumes.Source.Indexer.Model

/-!
# Genesis discovery

`find_genesis_block` of `node.py:115-135` over what it asks of web3. The outcome
comes with the blocks at which code was asked for, in order.
-/
namespace SwarmVolumes.Source.Indexer
open Library

/-- The chain's head, and the code an address has after a block. -/
structure Web3 where
  blockNumber : Nat
  getCode : String → Nat → List UInt8
  toChecksumAddress : String → String

/-- `has_code`. -/
def Web3.hasCode (w3 : Web3) (checksum : String) (block : Nat) : Bool :=
  0 < (w3.getCode checksum block).length

def findGenesisBlock (w3 : Web3) (address : String) : List Nat × Except PyError Nat :=
  let checksum := w3.toChecksumAddress address
  let hi := w3.blockNumber
  if w3.hasCode checksum hi then
    let found := bisect (w3.hasCode checksum) 0 hi
    (hi :: found.1, .ok found.2)
  else ([hi], .error .valueError)

/-- Every request is for a block of the chain. -/
theorem findGenesisBlock_within (w3 : Web3) (address : String) :
    ∀ block ∈ (findGenesisBlock w3 address).1, block ≤ w3.blockNumber := by
  unfold findGenesisBlock
  dsimp only
  split
  · refine List.forall_mem_cons.mpr ⟨le_refl _, fun block member => ?_⟩
    exact (bisect_probes block member).2.le
  · exact List.forall_mem_singleton.mpr (le_refl _)

end SwarmVolumes.Source.Indexer
