import SwarmVolumes.Source.Indexer.Decode
import SwarmVolumes.Source.Indexer.Project

/-!
# The cache and the sync

`store.py`, `iter_log_chunks` of `acquire.py` and `_sync_and_project` of
`cli.py:94-162` for one deployment. The store is its directory: the rows of each
`.jsonl` file, line by line, and the block in `head.json`. A sync is the list of
the writes it makes, in order, and what it returns.
-/
namespace SwarmVolumes.Source.Indexer
open Library

/-- A deployment's directory. -/
structure Store where
  files : Dict String (List EventLogRow)
  head : Option Nat

/-- One completed write: a line appended to a file, or the head marker. -/
inductive Write where
  | row (row : EventLogRow)
  | head (block : Nat)

namespace Store

def empty : Store := ⟨[], none⟩

def write (s : Store) : Write → Store
  | .row row => { s with files := Dict.push s.files row.eventName row }
  | .head block => { s with head := some block }

def writes (s : Store) (ws : List Write) : Store := ws.foldl write s

/-- The rows of every file. -/
def rows (s : Store) : List EventLogRow := s.files.flatMap Prod.snd

end Store

/-- `append_rows`: grouped by file, then one line a row. -/
def appendRows (rows : List EventLogRow) : List Write :=
  (Dict.group LogRow.eventName rows).flatMap fun (_, rs) => rs.map .row

/-- `save_head`. -/
def saveHead (block : Nat) : List Write := [.head block]

/-- `load_event_log`: the rows of the files, the first at each position. -/
def loadEventLog (files : Dict String (List EventLogRow)) : EventLog :=
  .fromRows (Dict.index LogRow.position (files.flatMap Prod.snd)).values

/-- What a sync reads of the node and the machine. `glob` lists a directory in an
order of its own. -/
structure Node where
  logs : List RawLog
  blockTimestamp : Nat → Nat
  findGenesisBlock : Nat
  extra : Dict String Value
  priceDaily : Nat → Nat → List DailyPrice
  glob : ∀ {α : Type}, Dict String α → Dict String α
  globbed : ∀ {α : Type} (files : Dict String α), (glob files).Perm files

structure DeploymentSpec where
  label : String
  chainId : Nat
  registry : String
  registryVersion : String
  genesisBlock : Option Nat

def DeploymentSpec.deploymentId (spec : DeploymentSpec) : DeploymentId := (spec.chainId, spec.registry)

/-- `get_logs` over a block range. -/
def Node.getLogs (node : Node) (fromBlock toBlock : Nat) (filter : RawLog → Bool) : List RawLog :=
  node.logs.filter fun log =>
    fromBlock ≤ log.record.block.number ∧ log.record.block.number ≤ toBlock ∧ filter log

variable {T P : Type}

/-- The registry's own events. -/
def registryLeg (log : RawLog) : Bool :=
  match log.record.log with
  | .registry _ => true
  | .callee _ => false

/-- The BZZ `Transfer`s from the registry to PostageStamp. -/
def feeLeg (d : Source.Deployment T P) (log : RawLog) : Bool :=
  match log.record.log with
  | .callee (.transfer src dst _) => src = d.address ∧ dst = d.postage
  | _ => false

/-- What `iter_log_chunks` yields: `(start, end, logs)`. -/
structure LogChunk (N L : Type) where
  start : N
  stop : N
  logs : List L

/-- `iter_log_chunks`, for at most `rounds` rounds of its loop; `legs` answers the two requests
for a range. -/
def iterLogChunks {N L : Type} [Add N] [Sub N] [OfNat N 1] [Min N] [LE N] [DecidableLE N]
    (legs : N → N → List L) (chunkSize toBlock : N) : Nat → N → List (LogChunk N L)
  | 0, _ => []
  | rounds + 1, start =>
    if start ≤ toBlock then
      let stop := min (start + chunkSize - 1) toBlock
      ⟨start, stop, legs start stop⟩ :: iterLogChunks legs chunkSize toBlock rounds (stop + 1)
    else []

/-- Both legs of a range, as the node answers. -/
def Node.legs (d : Source.Deployment T P) (node : Node) (start stop : Nat) : List RawLog :=
  node.getLogs start stop registryLeg ++ node.getLogs start stop (feeLeg d)

/-- The acquisition loop: each range is decoded, appended and checkpointed before
the next; a log that does not decode ends it. -/
def syncChunks (d : Source.Deployment T P) (deploymentId : DeploymentId) :
    List (LogChunk Nat RawLog) → List Write × Except PyError (List EventLogRow)
  | [] => ([], .ok [])
  | ⟨_, stop, raw⟩ :: chunks =>
    match raw.mapM (decodeLog d deploymentId) with
    | .error e => ([], .error e)
    | .ok rows =>
      let rest := syncChunks d deploymentId chunks
      (appendRows rows ++ saveHead stop ++ rest.1, rest.2.map (rows ++ ·))

def genesisOf (node : Node) (spec : DeploymentSpec) : Nat :=
  spec.genesisBlock.getD node.findGenesisBlock

/-- `from_block`. -/
def resumeBlock (node : Node) (spec : DeploymentSpec) (head : Option Nat) : Nat :=
  match head with
  | some head => head + 1
  | none => genesisOf node spec

/-- The writes and the fresh rows of a sync that starts with this head marker. -/
def acquire (d : Source.Deployment T P) (node : Node) (spec : DeploymentSpec)
    (chunkSize headBlock : Nat) (head : Option Nat) : List Write × Except PyError (List EventLogRow) :=
  let fromBlock := resumeBlock node spec head
  syncChunks d spec.deploymentId
    (iterLogChunks (node.legs d) chunkSize headBlock (headBlock + 1 - fromBlock) fromBlock)

/-- The entry projected from the prior history and the fresh rows. -/
def projectSync (node : Node) (spec : DeploymentSpec) (headBlock : Nat) (prior : EventLog)
    (fresh : List EventLogRow) : Except PyError ArtifactEntry :=
  let events := RowLog.fromRows (prior.merged ++ fresh)
  let asOfTs := node.blockTimestamp headBlock
  let genesisTs := node.blockTimestamp (genesisOf node spec)
  let priceDaily := node.priceDaily genesisTs asOfTs
  let deployment : Deployment :=
    { label := spec.label
      chainId := spec.chainId
      registry := spec.registry
      registryVersion := spec.registryVersion
      genesisTs
      fiatCurrencies := if priceDaily.isEmpty then [] else ["USD"]
      extra := node.extra }
  projectEntry deployment events priceDaily headBlock asOfTs

/-- `_sync_and_project`. -/
def syncAndProject (d : Source.Deployment T P) (node : Node) (spec : DeploymentSpec)
    (chunkSize headBlock : Nat) (s : Store) : List Write × Except PyError ArtifactEntry :=
  let prior := loadEventLog (node.glob s.files)
  let acquired := acquire d node spec chunkSize headBlock s.head
  (acquired.1, acquired.2 >>= projectSync node spec headBlock prior)

/-- One sync run; a killed one has made its first `killedAfter` writes. -/
structure Attempt where
  headBlock : Nat
  chunkSize : Nat
  killedAfter : Option Nat

/-- The store a run leaves. -/
def Attempt.leave (d : Source.Deployment T P) (node : Node) (spec : DeploymentSpec) (s : Store)
    (attempt : Attempt) : Store :=
  let made := (syncAndProject d node spec attempt.chunkSize attempt.headBlock s).1
  s.writes (match attempt.killedAfter with
    | some killedAfter => made.take killedAfter
    | none => made)

/-- The store after a sequence of runs from an empty one. -/
def storeAfter (d : Source.Deployment T P) (node : Node) (spec : DeploymentSpec)
    (attempts : List Attempt) : Store :=
  attempts.foldl (Attempt.leave d node spec) .empty

/-! ## What the store holds -/

theorem Store.rows_write_row (s : Store) (row : EventLogRow) :
    (s.write (.row row)).rows.Perm (s.rows ++ [row]) :=
  Dict.push_perm ..

theorem Store.writes_append (s : Store) (first second : List Write) :
    s.writes (first ++ second) = (s.writes first).writes second :=
  List.foldl_append

/-- Appending rows adds them and leaves the head marker. -/
theorem Store.writes_rows (s : Store) (rows : List EventLogRow) :
    (s.writes (rows.map .row)).rows.Perm (s.rows ++ rows) ∧ (s.writes (rows.map .row)).head = s.head := by
  induction rows generalizing s with
  | nil => exact ⟨.of_eq (List.append_nil _).symm, rfl⟩
  | cons row rows ih =>
    obtain ⟨perm, head⟩ := ih (s.write (.row row))
    refine ⟨perm.trans ?_, head⟩
    have added := (s.rows_write_row row).append_right rows
    rwa [List.append_assoc, List.singleton_append] at added

/-- `append_rows` writes each row once. -/
theorem appendRows_eq (rows : List EventLogRow) :
    ∃ ordered : List EventLogRow, appendRows rows = ordered.map .row ∧ ordered.Perm rows := by
  refine ⟨(Dict.group LogRow.eventName rows).flatMap Prod.snd, ?_, Dict.group_perm ..⟩
  rw [appendRows, List.map_flatMap]

/-- Every row once, in some order, when positions identify rows. -/
theorem loadEventLog_merged (files : Dict String (List EventLogRow))
    (positioned : Positioned (files.flatMap Prod.snd)) :
    (loadEventLog files).merged.Nodup ∧
    ∀ row, row ∈ (loadEventLog files).merged ↔ row ∈ files.flatMap Prod.snd := by
  obtain ⟨distinct, kept⟩ := Dict.index_values positioned
  have merged := merged_perm (Dict.index LogRow.position (files.flatMap Prod.snd)).values
  exact ⟨merged.nodup_iff.mpr distinct, fun row => merged.mem_iff.trans (kept row)⟩

end SwarmVolumes.Source.Indexer
