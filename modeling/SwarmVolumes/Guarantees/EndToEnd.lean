import Mathlib
import SwarmVolumes.Guarantees.Projection
import SwarmVolumes.Guarantees.SyncResume

/-!
# From the contract to the artifact entry

A sync reads a node that serves the logs of a run, in chunks, into a store that earlier
runs have left, and projects what the store then holds. The entry is that of the run up
to the head block: of each day the storage after its last block and what was forwarded
in its blocks. Nothing in between shows: chunk sizes, earlier runs, kills that leave no
row past the head marker.
-/
namespace SwarmVolumes.Guarantees.EndToEnd
open Library Source Source.Indexer Projection Replay SyncResume

variable {T P : Type} {d : Source.Deployment T P} {node : Node} {spec : DeploymentSpec}
  {w₀ w : World T P} {es : List (Entry T P)}

/-- The node dates the blocks of a chain as the chain does, each after the one before. -/
structure Clock (node : Node) (w₀ w : World T P) : Prop where
  increases : StrictMono node.blockTimestamp
  start : node.blockTimestamp w₀.block.number = w₀.block.timestamp
  stamped : ∀ r ∈ w.logs, node.blockTimestamp r.block.number = r.block.timestamp

/-- The deployment a sync projects for. -/
def deploymentOf (node : Node) (spec : DeploymentSpec) (headBlock : Nat) : Indexer.Deployment where
  label := spec.label
  chainId := spec.chainId
  registry := spec.registry
  registryVersion := spec.registryVersion
  genesisTs := node.blockTimestamp (genesisOf node spec)
  fiatCurrencies :=
    if (node.priceDaily (node.blockTimestamp (genesisOf node spec))
      (node.blockTimestamp headBlock)).isEmpty then [] else ["USD"]
  extra := node.extra

/-! ## The rows of a chain up to a block -/

theorem Block.NotAfter.number {a b : Block} (notAfter : a.NotAfter b) : a.number ≤ b.number := by
  cases notAfter with
  | inl same => rw [same]
  | inr later => exact later.1.le

/-- A node's logs of a run are told apart by block number and log index. -/
theorem indexes_identified {logs : List RawLog} (indexes : Indexes w logs) : Identified logs := by
  apply indexes.indices.imp
  intro a b increasing same
  have := increasing same.1
  omega

/-- Every log of a run is in a block that is not before the one it started in. -/
theorem log_after_start (deployed : Deployed d w₀) (run : Run d ticks w₀ es w) {r : Record}
    (logged : r ∈ w.logs) : w₀.block.number ≤ r.block.number := by
  obtain ⟨logs, blocks⟩ := run_logs deployed run
  rw [logs] at logged
  obtain ⟨e, member, added⟩ := List.mem_flatMap.mp logged
  rw [blocks e member r added]
  exact Block.NotAfter.number ((run_blocks run).2.1 e member).1

/-- What a sync up to a block acquires: the rows of the logs up to the block's time. -/
theorem chainRows_eq (deployed : Deployed d w₀) (run : Run d ticks w₀ es w)
    (indexes : Indexes w node.logs) (clock : Clock node w₀ w)
    (genesis : genesisOf node spec ≤ w₀.block.number) (headBlock : Nat) :
    chainRows d node spec.deploymentId (genesisOf node spec) headBlock =
      (logsUpTo (node.blockTimestamp headBlock) node.logs).filterMap (rowOf d spec.deploymentId) := by
  have cut : before LogRow.blockTs (node.blockTimestamp headBlock)
      (node.logs.filterMap (rowOf d spec.deploymentId)) =
      (logsUpTo (node.blockTimestamp headBlock) node.logs).filterMap (rowOf d spec.deploymentId) :=
    before_filterMap (fun log row found => (rowOf_place found).2.2.1) _
  rw [← cut, chainRows, before]
  apply List.filter_congr
  intro row member
  obtain ⟨log, listed, found⟩ := List.mem_filterMap.mp member
  obtain ⟨_, number, time, _⟩ := rowOf_place found
  have logged : log.record ∈ w.logs := by
    rw [← indexes.records]
    exact List.mem_map_of_mem listed
  have after := genesis.trans (log_after_start deployed run logged)
  have dated : row.blockTs = node.blockTimestamp row.blockNumber := by
    rw [time, number, clock.stamped _ logged]
  rw [dated, decide_eq_decide, clock.increases.le_iff_le, number]
  simp [after]

/-- The run up to a time, as the projector reads it. -/
theorem stored_upTo {deploymentId : DeploymentId} {logs : List RawLog} {rows : List EventLogRow}
    (documented : d.Documented) (deployed : Deployed d w₀) (run : Run d ticks w₀ es w)
    (indexes : Indexes w logs) (cutoff : Nat)
    (stored : rows.Perm ((logsUpTo cutoff logs).filterMap (rowOf d deploymentId))) :
    ∃ mid, Stored d w₀ (before Entry.time cutoff es) mid deploymentId (logsUpTo cutoff logs) rows := by
  obtain ⟨mid, first, records⟩ := run_before deployed run cutoff
  have cut : Indexes mid (logsUpTo cutoff logs) := by
    refine ⟨?_, indexes.indices.sublist List.filter_sublist⟩
    rw [records, ← indexes.records]
    exact before_map RawLog.record cutoff
  exact ⟨mid, documented, deployed, first, cut, stored⟩

/-! ## An entry up to a time -/

theorem dayEnd_le {day asOfTs : Nat} (within : day ≤ asOfTs / oneDay) : dayEnd day asOfTs ≤ asOfTs := by
  unfold dayEnd oneDay at *
  dsimp only
  split <;> omega

theorem storeAt_before {cutoff cutoff' : Nat} (earlier : cutoff ≤ cutoff') :
    storeAt (before Entry.time cutoff' es) cutoff = storeAt es cutoff := by
  unfold storeAt
  rw [before_before earlier]

theorem feeOn_before (asOfTs day : Nat) :
    feeOn d (before Entry.time asOfTs es) asOfTs day = feeOn d es asOfTs day := by
  unfold feeOn before
  rw [List.filter_filter]
  congr 2
  apply List.filter_congr
  intro e _
  by_cases early : e.time ≤ asOfTs <;> simp [early]

/-- What an entry reports of a run it reports of the run up to its own time. -/
theorem Reports.of_before {deployment : Indexer.Deployment} {asOfTs : Nat} {entry : ArtifactEntry}
    (reports : Reports d (before Entry.time asOfTs es) deployment asOfTs entry) :
    Reports d es deployment asOfTs entry := by
  have within : ∀ day ∈ reported deployment asOfTs,
      storeAt (before Entry.time asOfTs es) (dayEnd day asOfTs) = storeAt es (dayEnd day asOfTs) := by
    intro day member
    apply storeAt_before
    apply dayEnd_le
    exact (mem_dayRange.mp member).2
  constructor
  · rw [reports.capacity]
    apply List.map_congr_left
    intro day member
    rw [within day member]
  · rw [reports.accounts]
    apply List.map_congr_left
    intro day member
    rw [within day member]
  · rw [reports.fees]
    simp only [feeOn_before]

/-! ## The sync -/

/-- Every log of a run decodes. -/
theorem run_decodes (deployed : Deployed d w₀) (run : Run d ticks w₀ es w)
    (indexes : Indexes w node.logs) (fromBlock toBlock : Nat) :
    Decodes d node spec.deploymentId fromBlock toBlock := by
  intro log member acquires _ _
  apply decodeLog_ok acquires
  intro e announced
  apply (run_told deployed run).2.2
  rw [World.events, ← indexes.records]
  exact List.mem_filterMap.mpr ⟨log.record, List.mem_map_of_mem member, announced⟩

/-- A sync of a run of the contract, in whatever chunks and after whatever earlier runs
that left no row past the head marker, ends with an entry, and the entry reports the run. -/
theorem sync_reports_contract (documented : d.Documented) (deployed : Deployed d w₀)
    (run : Run d ticks w₀ es w) (indexes : Indexes w node.logs) (clock : Clock node w₀ w)
    (genesis : genesisOf node spec ≤ w₀.block.number)
    (tabled : ∀ e ∈ es, ∀ id, (e.after.store.volumes id).status = .active →
      Tabled (e.after.store.volumes id).depth)
    {attempts : List Attempt} {chunkSize headBlock : Nat} (started : genesisOf node spec ≤ headBlock)
    (heads : ∀ attempt ∈ attempts, attempt.headBlock ≤ headBlock)
    (sizes : ∀ attempt ∈ attempts, 0 < attempt.chunkSize) (size : 0 < chunkSize)
    (clean : ResumesClean (storeAfter d node spec attempts)) :
    ∃ entry, (syncAndProject d node spec chunkSize headBlock (storeAfter d node spec attempts)).2 =
        .ok entry ∧
      Reports d es (deploymentOf node spec headBlock) (node.blockTimestamp headBlock) entry := by
  obtain ⟨fresh, acquired⟩ : ∃ fresh, (acquire d node spec chunkSize headBlock
      (storeAfter d node spec attempts).head).2 = .ok fresh :=
    chunks_total size (run_decodes deployed run indexes _ _)
  have rows := (resumed_rows (indexes_identified indexes) (storeAfter_consistent sizes heads) clean
    size acquired).1
  rw [chainRows_eq deployed run indexes clock genesis] at rows
  obtain ⟨mid, chain⟩ := stored_upTo documented deployed run indexes _ rows
  have first : (deploymentOf node spec headBlock).genesisTs ≤ w₀.block.timestamp := by
    rw [← clock.start]
    exact clock.increases.monotone genesis
  have depths : ∀ e ∈ before Entry.time (node.blockTimestamp headBlock) es, ∀ id,
      (e.after.store.volumes id).status = .active → Tabled (e.after.store.volumes id).depth :=
    fun e member => tabled e (List.mem_of_mem_filter member)
  have stored : Stored d w₀ _ mid (deploymentOf node spec headBlock).deploymentId _ _ := chain
  obtain ⟨entry, projected, reports⟩ :=
    stored.entry first (clock.increases.monotone started) (fun day _ => storeAt_tabled depths _)
    (node.priceDaily (node.blockTimestamp (genesisOf node spec)) (node.blockTimestamp headBlock)) headBlock
  refine ⟨entry, ?_, Reports.of_before reports⟩
  unfold syncAndProject
  dsimp only
  rw [acquired, ok_bind]
  exact projected

/-- A node that serves the sample's logs. -/
def sampleNode : Node where
  logs := indexed Sample.final.logs
  blockTimestamp block := block + 900
  findGenesisBlock := 100
  extra := []
  priceDaily _ _ := []
  glob files := files
  globbed := @in_order

def sampleSpec : DeploymentSpec := ⟨"sample", 100, "0x100", "v2", none⟩

/-- An earlier sync that was killed before its first write, and one that was not killed. -/
def sampleAttempts : List Attempt := [⟨100, 7, some 0⟩, ⟨100, 50, none⟩]

theorem sync_reports_contract_sample :
    ∃ entry, (syncAndProject Sample.deployment sampleNode sampleSpec 10 130
        (storeAfter Sample.deployment sampleNode sampleSpec sampleAttempts)).2 = .ok entry ∧
      Reports Sample.deployment Sample.entries (deploymentOf sampleNode sampleSpec 130) 1030 entry := by
  have stamped : ∀ r ∈ Sample.final.logs, sampleNode.blockTimestamp r.block.number = r.block.timestamp := by
    decide
  have head : (storeAfter Sample.deployment sampleNode sampleSpec sampleAttempts).head = some 100 := by
    decide
  have below : ∀ row ∈ (storeAfter Sample.deployment sampleNode sampleSpec sampleAttempts).rows,
      row.blockNumber ≤ 100 := by
    decide
  have clock : Clock sampleNode Sample.genesis Sample.final :=
    ⟨strictMono_id.add_const 900, rfl, stamped⟩
  have start : genesisOf sampleNode sampleSpec ≤ Sample.genesis.block.number := Nat.le_refl 100
  exact sync_reports_contract Sample.documented Sample.deployed (Sample.run fun _ => .inl rfl)
    (indexes_indexed _) clock start sample_tabled (by decide) (by decide) (by decide)
    (by decide) fun row member => ⟨100, head, below row member⟩

end SwarmVolumes.Guarantees.EndToEnd
