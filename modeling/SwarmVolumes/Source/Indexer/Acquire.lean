import SwarmVolumes.Library.Tiling
import SwarmVolumes.Source.Indexer.Store

/-!
# Acquisition in ranges

`iter_log_chunks` of `acquire.py:41-67` over any client: a client answers
`get_logs`, and each block range is asked for twice, once for each leg. The
ranges a caller takes before it is interrupted are a first part of those yielded;
the next run starts after the last of them (`cli.py:119-139`).
-/
namespace SwarmVolumes.Source.Indexer.Acquire
open Library

variable {L : Type}

/-- The keyword arguments of `get_logs`. -/
structure LogQuery where
  fromBlock : Int
  toBlock : Int
  address : String
  topics : Option (List String)
  deriving DecidableEq

structure RpcClient (L : Type) where
  getLogs : LogQuery → List L

/-- `Web3.keccak(text=…).hex()` and `str.lower`. -/
structure Texts where
  keccakHex : String → String
  lower : String → String

/-- `TRANSFER_TOPIC`. -/
def transferTopic (texts : Texts) : String :=
  "0x" ++ texts.keccakHex "Transfer(address,address,uint256)"

/-- `_topic_address`. -/
def topicAddress (texts : Texts) (address : String) : String :=
  "0x" ++ String.ofList (List.leftpad 64 '0' (texts.lower (address.drop 2).toString).toList)

/-- The addresses a deployment's logs are filtered by. -/
structure Contracts where
  registry : String
  bzzToken : String
  postage : String

def feeTopics (texts : Texts) (contracts : Contracts) : List String :=
  [transferTopic texts, topicAddress texts contracts.registry, topicAddress texts contracts.postage]

/-- `chunk_size`, a positive number of blocks. -/
structure ChunkSize where
  blocks : Int
  positive : 1 ≤ blocks

def LogChunk.range (chunk : LogChunk Int L) : Int × Int := (chunk.start, chunk.stop)

/-- Every event of the registry. -/
def registryLeg (rpc : RpcClient L) (contracts : Contracts) (start stop : Int) : List L :=
  rpc.getLogs ⟨start, stop, contracts.registry, none⟩

/-- The BZZ `Transfer`s from the registry to PostageStamp. -/
def feeLeg (rpc : RpcClient L) (texts : Texts) (contracts : Contracts) (start stop : Int) : List L :=
  rpc.getLogs ⟨start, stop, contracts.bzzToken, some (feeTopics texts contracts)⟩

/-- `iter_log_chunks` from `start`, the loop's only variable. A range has a block at least, so
there are no more rounds than blocks. -/
def iterLogChunks (rpc : RpcClient L) (texts : Texts) (contracts : Contracts) (chunkSize : ChunkSize)
    (toBlock start : Int) : List (LogChunk Int L) :=
  Indexer.iterLogChunks
    (fun start stop => registryLeg rpc contracts start stop ++ feeLeg rpc texts contracts start stop)
    chunkSize.blocks toBlock (toBlock + 1 - start).toNat start

/-- A run up to `toBlock`, whose caller has handled its first ranges when it ends. -/
structure Run where
  chunkSize : ChunkSize
  toBlock : Int
  handled : Nat

/-- `head + 1`, of the last range handled. -/
def resumeAt (start : Int) (handled : List (LogChunk Int L)) : Int :=
  (handled.getLast?.map fun chunk => chunk.stop + 1).getD start

/-- The ranges that successive runs handle, and where the next one would start. -/
def resumed (rpc : RpcClient L) (texts : Texts) (contracts : Contracts) :
    List Run → Int → List (LogChunk Int L) × Int
  | [], start => ([], start)
  | run :: runs, start =>
    let handled := (iterLogChunks rpc texts contracts run.chunkSize run.toBlock start).take run.handled
    let rest := resumed rpc texts contracts runs (resumeAt start handled)
    (handled ++ rest.1, rest.2)

/-- The logs of ranges, in order. -/
def delivered (chunks : List (LogChunk Int L)) : List L := chunks.flatMap LogChunk.logs

variable {rpc : RpcClient L} {texts : Texts} {contracts : Contracts} {chunkSize : ChunkSize}

/-! ## The ranges of a run -/

theorem rounds_tile {legs : Int → Int → List L} {toBlock start : Int} {rounds : Nat}
    (enough : toBlock + 1 - start ≤ rounds) :
    Tiles start ((Indexer.iterLogChunks legs chunkSize.blocks toBlock rounds start).map LogChunk.range)
      (max start (toBlock + 1)) := by
  have positive := chunkSize.positive
  induction rounds generalizing start with
  | zero =>
    rw [max_eq_left (by omega)]
    exact .nil start
  | succ rounds ih =>
    rw [Indexer.iterLogChunks]
    split
    · have next : max (min (start + chunkSize.blocks - 1) toBlock + 1) (toBlock + 1) =
          max start (toBlock + 1) := by omega
      have nonempty : start ≤ min (start + chunkSize.blocks - 1) toBlock := by omega
      have rest := ih (by omega : toBlock + 1 - (min (start + chunkSize.blocks - 1) toBlock + 1) ≤ rounds)
      dsimp only
      rw [List.map_cons, ← next]
      exact .cons nonempty rest
    · rw [max_eq_left (by omega)]
      exact .nil start

theorem iterLogChunks_tiles (toBlock start : Int) :
    Tiles start ((iterLogChunks rpc texts contracts chunkSize toBlock start).map LogChunk.range)
      (max start (toBlock + 1)) :=
  rounds_tile (by omega)

/-- A range has at most `chunk_size` blocks, and carries the two legs' answers for it. -/
theorem iterLogChunks_spec (toBlock start : Int) :
    ∀ chunk ∈ iterLogChunks rpc texts contracts chunkSize toBlock start,
      chunk.stop < chunk.start + chunkSize.blocks ∧
      chunk.logs = registryLeg rpc contracts chunk.start chunk.stop ++
        feeLeg rpc texts contracts chunk.start chunk.stop := by
  unfold iterLogChunks
  generalize (toBlock + 1 - start).toNat = rounds
  induction rounds generalizing start with
  | zero => nofun
  | succ rounds ih =>
    rw [Indexer.iterLogChunks]
    split
    · exact List.forall_mem_cons.mpr ⟨⟨by dsimp only; omega, rfl⟩, ih _⟩
    · nofun

theorem resumeAt_eq {start next : Int} {handled : List (LogChunk Int L)}
    (tiles : Tiles start (handled.map LogChunk.range) next) : resumeAt start handled = next := by
  rw [tiles.next_eq, resumeAt, List.getLast?_map, Option.map_map]
  rfl

/-- The ranges handled before an interruption, and where the next run starts. -/
theorem handled_tiles (run : Run) (start : Int) {handled : List (LogChunk Int L)}
    (taken : handled = (iterLogChunks rpc texts contracts run.chunkSize run.toBlock start).take run.handled) :
    Tiles start (handled.map LogChunk.range) (resumeAt start handled) ∧
      resumeAt start handled ≤ max start (run.toBlock + 1) := by
  have whole : Tiles start
      ((iterLogChunks rpc texts contracts run.chunkSize run.toBlock start).map LogChunk.range)
      (max start (run.toBlock + 1)) :=
    iterLogChunks_tiles run.toBlock start
  obtain ⟨mid, tiles, before⟩ := whole.take run.handled
  rw [← List.map_take, ← taken] at tiles
  rw [resumeAt_eq tiles]
  exact ⟨tiles, before⟩

/-! ## The ranges of successive runs -/

theorem resumed_tiles (runs : List Run) (start : Int) :
    Tiles start ((resumed rpc texts contracts runs start).1.map LogChunk.range)
      (resumed rpc texts contracts runs start).2 := by
  induction runs generalizing start with
  | nil => exact .nil start
  | cons run runs ih =>
    rw [resumed, List.map_append]
    exact (handled_tiles run start rfl).1.append (ih _)

/-- Runs up to `toBlock` at most leave nothing past it to resume from. -/
theorem resumed_le {runs : List Run} {toBlock : Int} (within : ∀ run ∈ runs, run.toBlock ≤ toBlock)
    (start : Int) : (resumed rpc texts contracts runs start).2 ≤ max start (toBlock + 1) := by
  induction runs generalizing start with
  | nil => exact le_max_left ..
  | cons run runs ih =>
    obtain ⟨first, rest⟩ := List.forall_mem_cons.mp within
    let handled := (iterLogChunks rpc texts contracts run.chunkSize run.toBlock start).take run.handled
    have reached : resumeAt start handled ≤ max start (run.toBlock + 1) := (handled_tiles run start rfl).2
    have later := ih rest (resumeAt start handled)
    rw [resumed]
    exact later.trans (by omega)

theorem resumed_spec (runs : List Run) (start : Int) :
    ∀ chunk ∈ (resumed rpc texts contracts runs start).1,
      chunk.logs = registryLeg rpc contracts chunk.start chunk.stop ++
        feeLeg rpc texts contracts chunk.start chunk.stop := by
  induction runs generalizing start with
  | nil => nofun
  | cons run runs ih =>
    intro chunk member
    rw [resumed] at member
    rcases List.mem_append.mp member with handled | later
    · exact (iterLogChunks_spec run.toBlock start chunk (List.mem_of_mem_take handled)).2
    · exact ih _ chunk later

/-! ## The logs of ranges -/

/-- The ranges' logs, first those of the registry, then the fees. -/
theorem delivered_perm {chunks : List (LogChunk Int L)}
    (answered : ∀ chunk ∈ chunks, chunk.logs = registryLeg rpc contracts chunk.start chunk.stop ++
      feeLeg rpc texts contracts chunk.start chunk.stop) :
    (delivered chunks).Perm
      (((chunks.map LogChunk.range).flatMap fun range => registryLeg rpc contracts range.1 range.2) ++
        (chunks.map LogChunk.range).flatMap fun range => feeLeg rpc texts contracts range.1 range.2) := by
  rw [delivered, List.flatMap_congr answered, List.flatMap_map, List.flatMap_map]
  exact (List.flatMap_append_perm ..).symm

/-! ## The node of the cache -/

variable {T P : Type} {d : Source.Deployment T P} {node : Node}

/-- The node the cache is filled from, as a client. -/
def nodeClient (d : Source.Deployment T P) (node : Node) (texts : Texts) (contracts : Contracts) :
    RpcClient RawLog where
  getLogs query := node.logs.filter fun log =>
    query.fromBlock ≤ log.record.block.number ∧ log.record.block.number ≤ query.toBlock ∧
      ((query.address = contracts.registry ∧ query.topics = none ∧ Indexer.registryLeg log = true) ∨
        (query.address = contracts.bzzToken ∧ query.topics = some (feeTopics texts contracts) ∧
          Indexer.feeLeg d log = true))

theorem nodeClient_concatenates
    (ordered : node.logs.Pairwise fun a b => a.record.block.number ≤ b.record.block.number)
    (address : String) (topics : Option (List String)) :
    Concatenates fun start stop =>
      (nodeClient d node texts contracts).getLogs ⟨start, stop, address, topics⟩ := by
  have ordered' : node.logs.Pairwise fun a b => (a.record.block.number : Int) ≤ b.record.block.number :=
    ordered.imp Int.ofNat_le.mpr
  exact Concatenates.of_ordered ordered' fun log =>
    (address = contracts.registry ∧ topics = none ∧ Indexer.registryLeg log = true) ∨
      (address = contracts.bzzToken ∧ topics = some (feeTopics texts contracts) ∧
        Indexer.feeLeg d log = true)

end SwarmVolumes.Source.Indexer.Acquire
