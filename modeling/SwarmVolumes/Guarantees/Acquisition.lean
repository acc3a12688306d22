import Mathlib
import SwarmVolumes.Source.Indexer.Acquire
import SwarmVolumes.Source.Indexer.Node
import SwarmVolumes.Source.Registry.Sample

/-!
# Every block once

The first indexed block is the one the registry's code appears in. From it, the
ranges of a run cover every block up to the head once, and however the chain is cut
into ranges and into resumed runs, the same logs arrive.
-/
namespace SwarmVolumes.Guarantees.Acquisition
open Library Source Source.Indexer.Acquire
open Source.Indexer hiding iterLogChunks registryLeg feeLeg

variable {T P L : Type}

/-! ## Genesis -/

/-- The address has code from block `g` on and none before, as far as the head. -/
def CodeFrom (w3 : Web3) (address : String) (g : Nat) : Prop :=
  ∀ block ≤ w3.blockNumber, 0 < (w3.getCode (w3.toChecksumAddress address) block).length ↔ g ≤ block

/-- A log to acquire is emitted by the registry, or pays from it, in a block at which
the registry has code. -/
def EmittedByCode (w3 : Web3) (d : Source.Deployment T P) (spec : DeploymentSpec) (logs : List RawLog) : Prop :=
  ∀ log ∈ logs, acquired d log = true →
    0 < (w3.getCode (w3.toChecksumAddress spec.registry) log.record.block.number).length

variable {w3 : Web3} {address : String} {g : Nat}

theorem CodeFrom.holdsFrom (code : CodeFrom w3 address g) :
    HoldsFrom (w3.hasCode (w3.toChecksumAddress address)) g w3.blockNumber := by
  intro block inside
  rw [Web3.hasCode, decide_eq_true_iff]
  exact code block inside

theorem findGenesisBlock_eq (code : CodeFrom w3 address g) (within : g ≤ w3.blockNumber) :
    (findGenesisBlock w3 address).2 = .ok g := by
  have head : w3.hasCode (w3.toChecksumAddress address) w3.blockNumber = true :=
    (code.holdsFrom w3.blockNumber (le_refl _)).mpr within
  unfold findGenesisBlock
  dsimp only
  rw [if_pos head, bisect_eq code.holdsFrom (Nat.zero_le g) within]

theorem findGenesisBlock_error (bare : w3.getCode (w3.toChecksumAddress address) w3.blockNumber = []) :
    (findGenesisBlock w3 address).2 = .error .valueError := by
  have head : w3.hasCode (w3.toChecksumAddress address) w3.blockNumber = false := by
    rw [Web3.hasCode, bare]
    rfl
  unfold findGenesisBlock
  dsimp only
  rw [head]
  rfl

/-- Nothing to acquire lies before the first block of a first sync. -/
theorem first_indexed_block {d : Source.Deployment T P} {node : Node} {spec : DeploymentSpec}
    (code : CodeFrom w3 spec.registry g) (within : g ≤ w3.blockNumber)
    (unset : spec.genesisBlock = none)
    (discovered : (findGenesisBlock w3 spec.registry).2 = .ok node.findGenesisBlock)
    (emitted : EmittedByCode w3 d spec node.logs) :
    ∀ log ∈ node.logs, acquired d log = true → resumeBlock node spec none ≤ log.record.block.number := by
  intro log member acquires
  obtain rfl : g = node.findGenesisBlock :=
    Except.ok.inj ((findGenesisBlock_eq code within).symm.trans discovered)
  rw [resumeBlock, genesisOf, unset, Option.getD_none]
  by_cases past : log.record.block.number ≤ w3.blockNumber
  · exact (code _ past).mp (emitted log member acquires)
  · omega

/-- Genesis discovery finds the block the code appears in, asks for blocks of the
chain only, and fails when there is no code at the head. -/
theorem genesis_is_exact (w3 : Web3) (spec : DeploymentSpec) :
    (∀ g ≤ w3.blockNumber, CodeFrom w3 spec.registry g →
      (findGenesisBlock w3 spec.registry).2 = .ok g ∧
      (∀ block ∈ (findGenesisBlock w3 spec.registry).1, block ≤ w3.blockNumber) ∧
      ∀ (T P : Type) (d : Source.Deployment T P) (node : Node), spec.genesisBlock = none →
        (findGenesisBlock w3 spec.registry).2 = .ok node.findGenesisBlock →
        EmittedByCode w3 d spec node.logs →
        ∀ log ∈ node.logs, acquired d log = true →
          resumeBlock node spec none ≤ log.record.block.number) ∧
    (w3.getCode (w3.toChecksumAddress spec.registry) w3.blockNumber = [] →
      (findGenesisBlock w3 spec.registry).2 = .error .valueError) := by
  refine ⟨fun g within code => ⟨findGenesisBlock_eq code within, findGenesisBlock_within w3 spec.registry, ?_⟩,
    findGenesisBlock_error⟩
  intro T P d node unset discovered emitted
  exact first_indexed_block code within unset discovered emitted

/-- A chain of 1000 blocks, with code from block 731 on. -/
def sampleChain : Web3 where
  blockNumber := 1000
  getCode _ block := if 731 ≤ block then [0x60] else []
  toChecksumAddress address := address

theorem sampleChain_code (address : String) : CodeFrom sampleChain address 731 := by
  intro block _
  unfold sampleChain
  dsimp only
  split
  · exact iff_of_true Nat.one_pos ‹_›
  · exact iff_of_false (lt_irrefl 0) ‹_›

theorem genesis_is_exact_sample (spec : DeploymentSpec) :
    (findGenesisBlock sampleChain spec.registry).2 = .ok 731 :=
  ((genesis_is_exact sampleChain spec).1 731 (by decide) (sampleChain_code spec.registry)).1

/-! ## Ranges -/

/-- What a list of ranges has to be to cover `[fromBlock, toBlock]` once. -/
structure Covers (rpc : RpcClient L) (texts : Texts) (contracts : Contracts) (chunkSize : ChunkSize)
    (fromBlock toBlock : Int) (chunks : List (LogChunk Int L)) : Prop where
  consecutive : chunks.IsChain fun chunk chunk' => chunk'.start = chunk.stop + 1
  disjoint : chunks.Pairwise fun chunk chunk' =>
    Disjoint (Set.Icc chunk.start chunk.stop) (Set.Icc chunk'.start chunk'.stop)
  size : ∀ chunk ∈ chunks, 1 ≤ chunk.stop - chunk.start + 1 ∧
    chunk.stop - chunk.start + 1 ≤ chunkSize.blocks
  union : ⋃ chunk ∈ chunks, Set.Icc chunk.start chunk.stop = Set.Icc fromBlock toBlock
  empty : chunks = [] ↔ toBlock < fromBlock
  answers : ∀ chunk ∈ chunks, chunk.logs =
    rpc.getLogs ⟨chunk.start, chunk.stop, contracts.registry, none⟩ ++
      rpc.getLogs ⟨chunk.start, chunk.stop, contracts.bzzToken, some [transferTopic texts,
        topicAddress texts contracts.registry, topicAddress texts contracts.postage]⟩

variable {rpc : RpcClient L} {texts : Texts} {contracts : Contracts}

theorem iterLogChunks_covers (rpc : RpcClient L) (texts : Texts) (contracts : Contracts)
    (chunkSize : ChunkSize) (fromBlock toBlock : Int) :
    Covers rpc texts contracts chunkSize fromBlock toBlock
      (iterLogChunks rpc texts contracts chunkSize toBlock fromBlock) := by
  have tiles : Tiles fromBlock
      ((iterLogChunks rpc texts contracts chunkSize toBlock fromBlock).map LogChunk.range)
      (max fromBlock (toBlock + 1)) :=
    iterLogChunks_tiles toBlock fromBlock
  have spec : ∀ chunk ∈ iterLogChunks rpc texts contracts chunkSize toBlock fromBlock, _ :=
    iterLogChunks_spec toBlock fromBlock
  have bounds := List.forall_mem_map.mp tiles.bounds
  refine ⟨(List.isChain_map _).mp tiles.consecutive, ?_, fun chunk member => ?_, ?_, ?_,
    fun chunk member => (spec chunk member).2⟩
  · refine (List.pairwise_map.mp tiles.disjoint).imp fun {chunk chunk'} apart => ?_
    refine Set.disjoint_left.mpr fun block inside inside' => ?_
    exact absurd (inside'.1.trans inside.2) (not_le.mpr apart)
  · have inner : chunk.start ≤ chunk.stop := (bounds chunk member).2.1
    have short := (spec chunk member).1
    omega
  · ext block
    have inside := tiles.cover block
    simp only [List.mem_map, exists_exists_and_eq_and] at inside
    simp only [Set.mem_iUnion, Set.mem_Icc, exists_prop]
    exact inside.trans (by omega)
  · have none := tiles.eq_nil_iff
    rw [List.map_eq_nil_iff] at none
    exact none.trans (by omega)

/-- Runs up to `toBlock` at most, that together reach it. -/
structure Split (rpc : RpcClient L) (texts : Texts) (contracts : Contracts) (fromBlock toBlock : Int)
    (runs : List Run) : Prop where
  within : ∀ run ∈ runs, run.toBlock ≤ toBlock
  whole : toBlock < (resumed rpc texts contracts runs fromBlock).2

/-- The client's answer for a range, split anywhere, is the answers for its parts. -/
def Splits (rpc : RpcClient L) : Prop :=
  ∀ address topics, Concatenates fun start stop => rpc.getLogs ⟨start, stop, address, topics⟩

/-- The logs of both legs over the whole of `[fromBlock, toBlock]`. -/
def allLogs (rpc : RpcClient L) (texts : Texts) (contracts : Contracts) (fromBlock toBlock : Int) : List L :=
  if fromBlock ≤ toBlock then
    registryLeg rpc contracts fromBlock toBlock ++ feeLeg rpc texts contracts fromBlock toBlock
  else []

theorem delivered_allLogs (splits : Splits rpc) {fromBlock toBlock : Int} {chunks : List (LogChunk Int L)}
    (tiles : Tiles fromBlock (chunks.map LogChunk.range) (max fromBlock (toBlock + 1)))
    (answered : ∀ chunk ∈ chunks, chunk.logs = registryLeg rpc contracts chunk.start chunk.stop ++
      feeLeg rpc texts contracts chunk.start chunk.stop) :
    (delivered chunks).Perm (allLogs rpc texts contracts fromBlock toBlock) := by
  have registry : ((chunks.map LogChunk.range).flatMap fun range => registryLeg rpc contracts range.1 range.2) = _ :=
    (splits contracts.registry none).tiles tiles
  have fees : ((chunks.map LogChunk.range).flatMap fun range => feeLeg rpc texts contracts range.1 range.2) = _ :=
    (splits contracts.bzzToken (some (feeTopics texts contracts))).tiles tiles
  have legs := delivered_perm answered
  rw [registry, fees] at legs
  refine legs.trans (.of_eq ?_)
  unfold allLogs
  by_cases nonempty : fromBlock ≤ toBlock
  · have last : max fromBlock (toBlock + 1) - 1 = toBlock := by omega
    rw [if_pos (by omega), if_pos (by omega), if_pos nonempty, last]
    rfl
  · rw [if_neg (by omega), if_neg (by omega), if_neg nonempty, List.append_nil]

theorem iterLogChunks_delivers (splits : Splits rpc) (chunkSize : ChunkSize) (fromBlock toBlock : Int) :
    (delivered (iterLogChunks rpc texts contracts chunkSize toBlock fromBlock)).Perm
      (allLogs rpc texts contracts fromBlock toBlock) :=
  delivered_allLogs splits (iterLogChunks_tiles toBlock fromBlock)
    fun chunk member => (iterLogChunks_spec toBlock fromBlock chunk member).2

theorem resumed_delivers (splits : Splits rpc) {fromBlock toBlock : Int} {runs : List Run}
    (split : Split rpc texts contracts fromBlock toBlock runs) :
    (delivered (resumed rpc texts contracts runs fromBlock).1).Perm
      (allLogs rpc texts contracts fromBlock toBlock) := by
  have tiles : Tiles fromBlock ((resumed rpc texts contracts runs fromBlock).1.map LogChunk.range)
      (resumed rpc texts contracts runs fromBlock).2 :=
    resumed_tiles runs fromBlock
  have reached : (resumed rpc texts contracts runs fromBlock).2 = max fromBlock (toBlock + 1) := by
    have first := tiles.le
    have whole := split.whole
    have last : (resumed rpc texts contracts runs fromBlock).2 ≤ max fromBlock (toBlock + 1) :=
      resumed_le split.within fromBlock
    omega
  rw [reached] at tiles
  exact delivered_allLogs splits tiles (resumed_spec runs fromBlock)

/-- A run covers every block once, and neither the size of the ranges nor
interruptions change the logs that arrive. -/
theorem every_block_once (rpc : RpcClient L) (texts : Texts) (contracts : Contracts)
    (fromBlock toBlock : Int) :
    (∀ chunkSize, Covers rpc texts contracts chunkSize fromBlock toBlock
      (iterLogChunks rpc texts contracts chunkSize toBlock fromBlock)) ∧
    (Splits rpc → ∀ chunkSize,
      (∀ chunkSize',
        (delivered (iterLogChunks rpc texts contracts chunkSize' toBlock fromBlock)).Perm
          (delivered (iterLogChunks rpc texts contracts chunkSize toBlock fromBlock))) ∧
      ∀ runs, Split rpc texts contracts fromBlock toBlock runs →
        (delivered (resumed rpc texts contracts runs fromBlock).1).Perm
          (delivered (iterLogChunks rpc texts contracts chunkSize toBlock fromBlock))) := by
  refine ⟨fun chunkSize => iterLogChunks_covers .., fun splits chunkSize => ?_⟩
  have whole : (delivered (iterLogChunks rpc texts contracts chunkSize toBlock fromBlock)).Perm _ :=
    iterLogChunks_delivers splits chunkSize fromBlock toBlock
  refine ⟨fun chunkSize' => ?_, fun runs split => ?_⟩
  · exact (iterLogChunks_delivers splits chunkSize' fromBlock toBlock).trans whole.symm
  · exact (resumed_delivers splits split).trans whole.symm

/-- A fee in block 14 and one in block 15. -/
def sampleNode : Node where
  logs := [14, 15].map fun number => ⟨⟨⟨number, 1000⟩, 1,
    .callee (.transfer Sample.deployment.address Sample.deployment.postage 7)⟩, 0, 0⟩
  blockTimestamp _ := 1000
  findGenesisBlock := 5
  extra := []
  priceDaily _ _ := []
  glob files := files
  globbed _ := .refl _

def sampleTexts : Texts := ⟨fun text => text, fun text => text⟩

def sampleContracts : Contracts := ⟨"0x100", "0x300", "0x200"⟩

def sampleClient : RpcClient RawLog := nodeClient Sample.deployment sampleNode sampleTexts sampleContracts

theorem sampleClient_splits : Splits sampleClient :=
  nodeClient_concatenates (by decide)

/-- Killed after its first range of ten blocks, then resumed with ranges of four. -/
def sampleRuns : List Run := [⟨⟨10, by decide⟩, 29, 1⟩, ⟨⟨4, by decide⟩, 29, 100⟩]

theorem sampleRuns_split : Split sampleClient sampleTexts sampleContracts 5 29 sampleRuns where
  within := by decide
  whole := by simp [sampleRuns, resumed, iterLogChunks, Indexer.iterLogChunks, resumeAt]

theorem every_block_once_sample :
    (delivered (resumed sampleClient sampleTexts sampleContracts sampleRuns 5).1).Perm
      (delivered (iterLogChunks sampleClient sampleTexts sampleContracts ⟨10000, by decide⟩ 29 5)) :=
  ((every_block_once sampleClient sampleTexts sampleContracts 5 29).2 sampleClient_splits
    ⟨10000, by decide⟩).2 sampleRuns sampleRuns_split

end SwarmVolumes.Guarantees.Acquisition
