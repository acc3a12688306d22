import Mathlib
import SwarmVolumes.Source.Indexer.Store
import SwarmVolumes.Source.Registry.Sample

/-!
# Resuming a sync

After any runs, killed between any two writes, the store holds rows of the chain
and, up to its head marker, all of them (`Consistent`). A run whose store holds
nothing past the marker then projects what one sync of the whole range projects.
Past the marker the cached rows are acquired again, and counted again.
-/
namespace SwarmVolumes.Guarantees.SyncResume
open Library Source Source.Indexer

variable {T P : Type} {d : Source.Deployment T P} {node : Node} {spec : DeploymentSpec}
  {deploymentId : DeploymentId}

/-- Block number and log index identify a log. -/
def Identified (logs : List RawLog) : Prop :=
  logs.Pairwise fun a b =>
    ¬ (a.record.block.number = b.record.block.number ∧ a.logIndex = b.logIndex)

/-- The rows of the chain in a block range. -/
def chainRows (d : Source.Deployment T P) (node : Node) (deploymentId : DeploymentId)
    (fromBlock toBlock : Nat) : List EventLogRow :=
  (node.logs.filterMap (rowOf d deploymentId)).filter fun row =>
    fromBlock ≤ row.blockNumber ∧ row.blockNumber ≤ toBlock

/-- Every log to acquire in a block range decodes. -/
def Decodes (d : Source.Deployment T P) (node : Node) (deploymentId : DeploymentId)
    (fromBlock toBlock : Nat) : Prop :=
  ∀ log ∈ node.logs, acquired d log = true → fromBlock ≤ log.record.block.number →
    log.record.block.number ≤ toBlock → ∃ row, decodeLog d deploymentId log = .ok row

theorem mem_chainRows {fromBlock toBlock : Nat} {row : EventLogRow} :
    row ∈ chainRows d node deploymentId fromBlock toBlock ↔
      row ∈ node.logs.filterMap (rowOf d deploymentId) ∧
        fromBlock ≤ row.blockNumber ∧ row.blockNumber ≤ toBlock := by
  simp [chainRows]

theorem Identified.rows (identified : Identified node.logs) :
    (node.logs.filterMap (rowOf d deploymentId)).Pairwise fun a b => a.position ≠ b.position := by
  refine List.Pairwise.filterMap _ (fun a b apart row first row' second same => ?_) identified
  obtain ⟨_, number, _, index⟩ := rowOf_place first
  obtain ⟨_, number', _, index'⟩ := rowOf_place second
  rw [LogRow.position, LogRow.position, Prod.mk.injEq, number, number', index, index'] at same
  exact apart same

theorem Identified.nodup (identified : Identified node.logs) (fromBlock toBlock : Nat) :
    (chainRows d node deploymentId fromBlock toBlock).Nodup :=
  (identified.rows.imp fun apart same => apart (congrArg _ same)).filter _

theorem Identified.positioned (identified : Identified node.logs) {rows : List EventLogRow}
    (chain : ∀ row ∈ rows, row ∈ node.logs.filterMap (rowOf d deploymentId)) : Positioned rows := by
  have apart : (node.logs.filterMap (rowOf d deploymentId)).Pairwise
      fun a b => a.position = b.position → a = b :=
    identified.rows.imp fun apart same => absurd same apart
  have apart' : (node.logs.filterMap (rowOf d deploymentId)).Pairwise
      fun a b => b.position = a.position → b = a :=
    identified.rows.imp fun apart same => absurd same.symm apart
  intro a first b second
  exact List.Pairwise.forall_of_forall_of_flip (fun _ _ _ => rfl) apart apart' (chain a first)
    (chain b second)

/-- A range in two parts. -/
theorem chainRows_split {fromBlock mid toBlock : Nat} (low : fromBlock ≤ mid + 1) (high : mid ≤ toBlock) :
    (chainRows d node deploymentId fromBlock mid ++
      chainRows d node deploymentId (mid + 1) toBlock).Perm
      (chainRows d node deploymentId fromBlock toBlock) := by
  unfold chainRows
  generalize node.logs.filterMap (rowOf d deploymentId) = rows
  have parts := List.filter_append_perm (fun row : EventLogRow => decide (row.blockNumber ≤ mid))
    (rows.filter fun row => fromBlock ≤ row.blockNumber ∧ row.blockNumber ≤ toBlock)
  rw [List.filter_filter, List.filter_filter] at parts
  refine .trans (.of_eq ?_) parts
  refine congrArg₂ (· ++ ·) (List.filter_congr fun row _ => ?_) (List.filter_congr fun row _ => ?_)
  · rw [← Bool.decide_and]
    exact decide_eq_decide.mpr (by omega)
  · rw [← decide_not, ← Bool.decide_and]
    exact decide_eq_decide.mpr (by omega)

/-! ## One range -/

theorem mem_range {start stop : Nat} {log : RawLog} :
    log ∈ node.legs d start stop ↔
      log ∈ node.logs ∧ start ≤ log.record.block.number ∧ log.record.block.number ≤ stop ∧
        acquired d log = true := by
  have legs : acquired d log = (registryLeg log || feeLeg d log) := by
    unfold acquired registryLeg feeLeg
    cases log.record.log with
    | registry e => rfl
    | callee callee =>
      cases callee with
      | transfer src dst value => rfl
      | other emitter => rfl
  simp only [Node.legs, Node.getLogs, List.mem_append, List.mem_filter, decide_eq_true_eq, legs, Bool.or_eq_true]
  tauto

/-- The two legs of a range are its acquired logs. -/
theorem range_perm (start stop : Nat) :
    (node.legs d start stop).Perm
      (node.logs.filter fun log => start ≤ log.record.block.number ∧
        log.record.block.number ≤ stop ∧ acquired d log) := by
  unfold Node.legs Node.getLogs
  have parts := List.filter_append_perm registryLeg (node.logs.filter fun log =>
    start ≤ log.record.block.number ∧ log.record.block.number ≤ stop ∧ acquired d log)
  rw [List.filter_filter, List.filter_filter] at parts
  refine .trans (.of_eq ?_) parts
  refine congrArg₂ (· ++ ·) (List.filter_congr fun log _ => ?_) (List.filter_congr fun log _ => ?_)
  · unfold registryLeg acquired
    cases log.record.log with
    | registry e => simp
    | callee callee => simp
  · unfold registryLeg feeLeg acquired
    cases log.record.log with
    | registry e => simp
    | callee callee =>
      cases callee with
      | transfer src dst value => simp
      | other emitter => simp

theorem decode_rows {raw : List RawLog} {rows : List EventLogRow}
    (acquires : ∀ log ∈ raw, acquired d log = true)
    (decoded : raw.mapM (decodeLog d deploymentId) = .ok rows) :
    rows = raw.filterMap (rowOf d deploymentId) := by
  induction raw generalizing rows with
  | nil => exact (Except.ok.inj decoded).symm
  | cons log raw ih =>
    rw [List.mapM_cons] at decoded
    obtain ⟨row, first, decoded⟩ := bind_success decoded
    obtain ⟨rest, others, same⟩ := bind_success decoded
    cases same
    have found : rowOf d deploymentId log = some row := by
      rw [rowOf, if_pos (acquires log (List.mem_cons_self ..)), first]
      rfl
    rw [List.filterMap_cons, found, ih (fun log' member => acquires log' (List.mem_cons_of_mem _ member)) others]

/-- Decoding a range, when it succeeds, gives its rows. -/
theorem decoded_range {start stop : Nat} {rows : List EventLogRow}
    (decoded : (node.legs d start stop).mapM (decodeLog d deploymentId) = .ok rows) :
    rows.Perm (chainRows d node deploymentId start stop) ∧ Decodes d node deploymentId start stop := by
  constructor
  · rw [decode_rows (fun log member => (mem_range.mp member).2.2.2) decoded]
    refine ((range_perm start stop).filterMap _).trans (.of_eq ?_)
    rw [chainRows, List.filter_filterMap, List.filterMap_filter]
    refine List.filterMap_congr fun log _ => ?_
    cases found : rowOf d deploymentId log with
    | none => simp
    | some row =>
      have acquires : acquired d log = true := by
        by_contra skipped
        rw [rowOf, if_neg skipped] at found
        cases found
      simp [acquires, (rowOf_place found).2.1, Option.filter_some]
  · intro log member acquires low high
    exact mapM_success decoded log (mem_range.mpr ⟨member, low, high, acquires⟩)

theorem range_decodes {start stop : Nat} (decodes : Decodes d node deploymentId start stop) :
    ∃ rows, (node.legs d start stop).mapM (decodeLog d deploymentId) = .ok rows := by
  refine mapM_total fun log member => ?_
  obtain ⟨listed, low, high, acquires⟩ := mem_range.mp member
  exact decodes log listed acquires low high

/-! ## The loop over ranges -/

theorem Decodes.mono {fromBlock toBlock fromBlock' toBlock' : Nat}
    (decodes : Decodes d node deploymentId fromBlock toBlock) (low : fromBlock ≤ fromBlock')
    (high : toBlock' ≤ toBlock) : Decodes d node deploymentId fromBlock' toBlock' :=
  fun log member acquires above below =>
    decodes log member acquires (low.trans above) (below.trans high)

theorem Decodes.join {fromBlock mid toBlock : Nat} (first : Decodes d node deploymentId fromBlock mid)
    (second : Decodes d node deploymentId (mid + 1) toBlock) :
    Decodes d node deploymentId fromBlock toBlock := by
  intro log member acquires above below
  rcases Nat.lt_or_ge mid log.record.block.number with late | early
  · exact second log member acquires late below
  · exact first log member acquires above early

/-- The loop, when it ends, has decoded the rows of its whole range. -/
theorem chunks_rows {chunkSize toBlock rounds start : Nat} {fresh : List EventLogRow}
    (positive : 0 < chunkSize) (enough : toBlock + 1 - start ≤ rounds)
    (ok : (syncChunks d deploymentId
      (iterLogChunks (node.legs d) chunkSize toBlock rounds start)).2 = .ok fresh) :
    fresh.Perm (chainRows d node deploymentId start toBlock) ∧
      Decodes d node deploymentId start toBlock := by
  induction rounds generalizing start fresh with
  | zero =>
    obtain rfl : fresh = [] := (Except.ok.inj ok).symm
    refine ⟨.of_eq (List.filter_eq_nil_iff.mpr fun row _ => ?_).symm, fun log _ _ above below => ?_⟩
    · simp only [decide_eq_true_eq]
      omega
    · omega
  | succ rounds ih =>
    rw [iterLogChunks] at ok
    split at ok
    · rename_i started
      dsimp only at ok
      rw [syncChunks] at ok
      cases decoded : (node.legs d start (min (start + chunkSize - 1) toBlock)).mapM
          (decodeLog d deploymentId) with
      | error e =>
        rw [decoded] at ok
        cases ok
      | ok rows =>
        rw [decoded] at ok
        obtain ⟨rest, others, rfl⟩ := map_success ok
        obtain ⟨here, decodes⟩ := decoded_range decoded
        obtain ⟨there, decodes'⟩ := ih (by omega) others
        exact ⟨(here.append there).trans (chainRows_split (by omega) (by omega)), decodes.join decodes'⟩
    · obtain rfl : fresh = [] := (Except.ok.inj ok).symm
      refine ⟨.of_eq (List.filter_eq_nil_iff.mpr fun row _ => ?_).symm, fun log _ _ above below => ?_⟩
      · simp only [decide_eq_true_eq]
        omega
      · omega

theorem chunks_total {chunkSize toBlock rounds start : Nat} (positive : 0 < chunkSize)
    (decodes : Decodes d node deploymentId start toBlock) :
    ∃ fresh, (syncChunks d deploymentId
      (iterLogChunks (node.legs d) chunkSize toBlock rounds start)).2 = .ok fresh := by
  induction rounds generalizing start with
  | zero => exact ⟨[], rfl⟩
  | succ rounds ih =>
    rw [iterLogChunks]
    split
    · dsimp only
      rw [syncChunks]
      obtain ⟨rows, decoded⟩ := range_decodes (decodes.mono (Nat.le_refl start)
        (Nat.min_le_right (start + chunkSize - 1) toBlock))
      rw [decoded]
      obtain ⟨rest, others⟩ := ih (decodes.mono
        (by omega : start ≤ min (start + chunkSize - 1) toBlock + 1) (Nat.le_refl _))
      dsimp only
      rw [others]
      exact ⟨_, rfl⟩
    · exact ⟨[], rfl⟩

/-! ## What a killed run leaves -/

/-- The store holds rows of the chain, and every row up to its head marker. -/
structure Consistent (d : Source.Deployment T P) (node : Node) (spec : DeploymentSpec) (top : Nat)
    (s : Store) : Prop where
  sound : ∀ row ∈ s.rows, row ∈ chainRows d node spec.deploymentId (genesisOf node spec) top
  complete : ∀ head, s.head = some head → genesisOf node spec ≤ head ∧ head ≤ top ∧
    Decodes d node spec.deploymentId (genesisOf node spec) head ∧
    ∀ row ∈ chainRows d node spec.deploymentId (genesisOf node spec) head, row ∈ s.rows

theorem Consistent.empty (top : Nat) : Consistent d node spec top .empty := ⟨nofun, nofun⟩

/-- Appending rows of the chain keeps the store consistent. -/
theorem Consistent.append {top : Nat} {s : Store} (consistent : Consistent d node spec top s)
    {rows : List EventLogRow}
    (chain : ∀ row ∈ rows, row ∈ chainRows d node spec.deploymentId (genesisOf node spec) top) :
    Consistent d node spec top (s.writes (rows.map .row)) := by
  obtain ⟨perm, head⟩ := s.writes_rows rows
  refine ⟨fun row member => ?_, fun block marked => ?_⟩
  · rcases List.mem_append.mp (perm.mem_iff.mp member) with old | new
    · exact consistent.sound row old
    · exact chain row new
  · rw [head] at marked
    obtain ⟨started, bound, decodes, all⟩ := consistent.complete block marked
    exact ⟨started, bound, decodes, fun row member =>
      perm.mem_iff.mpr (List.mem_append_left _ (all row member))⟩

/-- The store holds everything before `start`. -/
structure Covered (d : Source.Deployment T P) (node : Node) (spec : DeploymentSpec) (start : Nat)
    (s : Store) : Prop where
  decodes : ∀ log ∈ node.logs, acquired d log = true →
    genesisOf node spec ≤ log.record.block.number → log.record.block.number < start →
    ∃ row, decodeLog d spec.deploymentId log = .ok row
  rows : ∀ row ∈ node.logs.filterMap (rowOf d spec.deploymentId),
    genesisOf node spec ≤ row.blockNumber → row.blockNumber < start → row ∈ s.rows

theorem take_append_cons {α : Type*} (as : List α) (b : α) (bs : List α) (k : Nat) :
    (as ++ b :: bs).take k = as.take k ∨ ∃ k', (as ++ b :: bs).take k = as ++ b :: bs.take k' := by
  rcases Nat.lt_or_ge as.length k with long | short
  · obtain ⟨more, rfl⟩ := Nat.exists_eq_add_of_lt long
    refine .inr ⟨more, ?_⟩
    rw [Nat.add_assoc, List.take_length_add_append, List.take_succ_cons]
  · exact .inl (List.take_append_of_le_length short)

/-- However many of its writes a run has made, the store is consistent. -/
theorem chunks_consistent {chunkSize toBlock top rounds start : Nat} (positive : 0 < chunkSize)
    (within : toBlock ≤ top) {s : Store} (started : genesisOf node spec ≤ start)
    (consistent : Consistent d node spec top s) (covered : Covered d node spec start s) (k : Nat) :
    Consistent d node spec top (s.writes ((syncChunks d spec.deploymentId
      (iterLogChunks (node.legs d) chunkSize toBlock rounds start)).1.take k)) := by
  induction rounds generalizing start s k with
  | zero =>
    rw [iterLogChunks, syncChunks, List.take_nil]
    exact consistent
  | succ rounds ih =>
    rw [iterLogChunks]
    split
    · rename_i more
      dsimp only
      generalize stops : min (start + chunkSize - 1) toBlock = stop
      rw [syncChunks]
      cases decoded : (node.legs d start stop).mapM (decodeLog d spec.deploymentId) with
      | error e =>
        dsimp only
        rw [List.take_nil]
        exact consistent
      | ok rows =>
        obtain ⟨here, decodes⟩ := decoded_range decoded
        obtain ⟨ordered, appended, same⟩ := appendRows_eq rows
        have chain : ∀ row ∈ ordered,
            row ∈ chainRows d node spec.deploymentId (genesisOf node spec) top := by
          intro row member
          obtain ⟨listed, low, high⟩ := mem_chainRows.mp ((same.trans here).mem_iff.mp member)
          exact mem_chainRows.mpr ⟨listed, started.trans low, by omega⟩
        dsimp only
        rw [appended, saveHead, List.append_assoc, List.singleton_append]
        rcases take_append_cons (ordered.map Write.row) (.head stop) (syncChunks d spec.deploymentId
            (iterLogChunks (node.legs d) chunkSize toBlock rounds (stop + 1))).1 k with short | ⟨k', long⟩
        · rw [short, ← List.map_take]
          exact consistent.append fun row member => chain row (List.mem_of_mem_take member)
        · rw [long, Store.writes_append]
          have after := consistent.append chain
          obtain ⟨perm, _⟩ := s.writes_rows ordered
          have all : Covered d node spec (stop + 1) (s.writes (ordered.map .row)) := by
            refine ⟨fun log member acquires low high => ?_, fun row listed low high => ?_⟩
            · rcases Nat.lt_or_ge log.record.block.number start with old | new
              · exact covered.decodes log member acquires low old
              · exact decodes log member acquires new (Nat.le_of_lt_succ high)
            · rcases Nat.lt_or_ge row.blockNumber start with old | new
              · exact perm.mem_iff.mpr (List.mem_append_left _ (covered.rows row listed low old))
              · refine perm.mem_iff.mpr (List.mem_append_right _ ((same.trans here).mem_iff.mpr ?_))
                exact mem_chainRows.mpr ⟨listed, new, Nat.le_of_lt_succ high⟩
          have marked : Consistent d node spec top
              ((s.writes (ordered.map .row)).write (.head stop)) := by
            refine ⟨after.sound, fun head same => ?_⟩
            obtain rfl : stop = head := Option.some.inj same
            refine ⟨by omega, by omega, fun log member acquires low high => ?_, fun row member => ?_⟩
            · exact all.decodes log member acquires low (Nat.lt_succ_of_le high)
            · obtain ⟨listed, low, high⟩ := mem_chainRows.mp member
              exact all.rows row listed low (Nat.lt_succ_of_le high)
          exact ih (by omega) marked ⟨all.decodes, all.rows⟩ k'
    · rw [syncChunks, List.take_nil]
      exact consistent

theorem resumes_covered {top : Nat} {s : Store} (consistent : Consistent d node spec top s) :
    genesisOf node spec ≤ resumeBlock node spec s.head ∧
      Covered d node spec (resumeBlock node spec s.head) s := by
  cases marked : s.head with
  | none =>
    refine ⟨Nat.le_refl _, fun log _ _ low high => ?_, fun row _ low high => ?_⟩
    · exact absurd high (Nat.not_lt.mpr low)
    · exact absurd high (Nat.not_lt.mpr low)
  | some head =>
    obtain ⟨started, _, decodes, all⟩ := consistent.complete head marked
    refine ⟨started.trans (Nat.le_succ head), fun log member acquires low high => ?_,
      fun row listed low high => ?_⟩
    · exact decodes log member acquires low (Nat.le_of_lt_succ high)
    · exact all row (mem_chainRows.mpr ⟨listed, low, Nat.le_of_lt_succ high⟩)

/-- One run, killed or not. -/
theorem Consistent.leave {top : Nat} {s : Store} (consistent : Consistent d node spec top s)
    {attempt : Attempt} (positive : 0 < attempt.chunkSize) (within : attempt.headBlock ≤ top) :
    Consistent d node spec top (attempt.leave d node spec s) := by
  obtain ⟨started, covered⟩ := resumes_covered consistent
  have made : ∀ k, Consistent d node spec top
      (s.writes ((acquire d node spec attempt.chunkSize attempt.headBlock s.head).1.take k)) :=
    chunks_consistent positive within started consistent covered
  unfold Attempt.leave syncAndProject
  dsimp only
  cases attempt.killedAfter with
  | some k => exact made k
  | none =>
    have all := made (acquire d node spec attempt.chunkSize attempt.headBlock s.head).1.length
    rwa [List.take_length] at all

/-- Any sequence of runs. -/
theorem storeAfter_consistent {top : Nat} {attempts : List Attempt}
    (positive : ∀ attempt ∈ attempts, 0 < attempt.chunkSize)
    (within : ∀ attempt ∈ attempts, attempt.headBlock ≤ top) :
    Consistent d node spec top (storeAfter d node spec attempts) := by
  unfold storeAfter
  induction attempts using List.reverseRecOn with
  | nil => exact .empty top
  | append_singleton attempts attempt ih =>
    rw [List.foldl_append]
    have earlier := ih (fun a member => positive a (List.mem_append_left _ member))
      fun a member => within a (List.mem_append_left _ member)
    exact earlier.leave (positive attempt (by simp)) (within attempt (by simp))

/-! ## What a completing run projects -/

/-- The store holds nothing past its head marker, so that resuming from it
acquires no row a second time. -/
def ResumesClean (s : Store) : Prop :=
  ∀ row ∈ s.rows, ∃ head, s.head = some head ∧ row.blockNumber ≤ head

/-- The history and the delta of a completing run are the rows of the whole range. -/
theorem resumed_rows (identified : Identified node.logs) {s : Store} {chunkSize headBlock : Nat}
    (consistent : Consistent d node spec headBlock s) (clean : ResumesClean s)
    (positive : 0 < chunkSize) {fresh : List EventLogRow}
    (ok : (acquire d node spec chunkSize headBlock s.head).2 = .ok fresh) :
    ((loadEventLog (node.glob s.files)).merged ++ fresh).Perm
      (chainRows d node spec.deploymentId (genesisOf node spec) headBlock) ∧
    Decodes d node spec.deploymentId (genesisOf node spec) headBlock := by
  have listed : ((node.glob s.files).flatMap Prod.snd).Perm s.rows :=
    (node.globbed s.files).flatMap_right Prod.snd
  have chain : ∀ row ∈ (node.glob s.files).flatMap Prod.snd,
      row ∈ node.logs.filterMap (rowOf d spec.deploymentId) := fun row member =>
    (mem_chainRows.mp (consistent.sound row (listed.mem_iff.mp member))).1
  obtain ⟨once, loaded⟩ := loadEventLog_merged _ (identified.positioned chain)
  obtain ⟨rows, decodes⟩ := chunks_rows positive (Nat.le_refl _) ok
  cases marked : s.head with
  | none =>
    rw [marked] at rows decodes
    have nothing : (loadEventLog (node.glob s.files)).merged = [] := by
      refine List.eq_nil_iff_forall_not_mem.mpr fun row member => ?_
      obtain ⟨head, same, _⟩ := clean row (listed.mem_iff.mp ((loaded row).mp member))
      rw [marked] at same
      cases same
    rw [nothing]
    exact ⟨rows, decodes⟩
  | some head =>
    rw [marked] at rows decodes
    obtain ⟨started, bound, earlier, all⟩ := consistent.complete head marked
    have prior : (loadEventLog (node.glob s.files)).merged.Perm
        (chainRows d node spec.deploymentId (genesisOf node spec) head) := by
      refine (List.perm_ext_iff_of_nodup once (identified.nodup _ _)).mpr fun row => ?_
      rw [loaded, listed.mem_iff]
      refine ⟨fun member => ?_, all row⟩
      obtain ⟨head', same, below⟩ := clean row member
      obtain rfl : head = head' := Option.some.inj (marked.symm.trans same)
      obtain ⟨known, low, _⟩ := mem_chainRows.mp (consistent.sound row member)
      exact mem_chainRows.mpr ⟨known, low, below⟩
    exact ⟨(prior.append rows).trans (chainRows_split (started.trans (Nat.le_succ head)) bound),
      earlier.join decodes⟩

/-- A run that acquires no cached row again projects, after any runs, killed or
not, with any chunk sizes, what one sync from genesis projects. -/
theorem resumed_sync_is_one_shot (identified : Identified node.logs) {attempts : List Attempt}
    {chunkSize headBlock : Nat} (heads : ∀ attempt ∈ attempts, attempt.headBlock ≤ headBlock)
    (sizes : ∀ attempt ∈ attempts, 0 < attempt.chunkSize) (size : 0 < chunkSize)
    (clean : ResumesClean (storeAfter d node spec attempts)) {entry : ArtifactEntry}
    (completed : (syncAndProject d node spec chunkSize headBlock
      (storeAfter d node spec attempts)).2 = .ok entry)
    {chunkSize' : Nat} (size' : 0 < chunkSize') :
    (syncAndProject d node spec chunkSize' headBlock .empty).2 = .ok entry := by
  obtain ⟨fresh, acquired, projected⟩ := bind_success completed
  obtain ⟨rows, decodes⟩ := resumed_rows identified (storeAfter_consistent sizes heads) clean size
    acquired
  obtain ⟨fresh', acquired'⟩ : ∃ fresh',
      (acquire d node spec chunkSize' headBlock Store.empty.head).2 = .ok fresh' :=
    chunks_total size' decodes
  obtain ⟨rows', _⟩ := resumed_rows identified (Consistent.empty headBlock) nofun size' acquired'
  unfold syncAndProject
  dsimp only
  rw [acquired', ok_bind, ← projected]
  have positioned : Positioned ((loadEventLog (node.glob Store.empty.files)).merged ++ fresh') :=
    identified.positioned fun row member => (mem_chainRows.mp (rows'.mem_iff.mp member)).1
  exact projectEntry_congr fun names distinct =>
    of_congr distinct positioned (rows'.trans rows.symm)

/-! ## A kill between a row and its checkpoint -/

/-- One fee of 1 BZZ, in the genesis block. -/
def feeLog : RawLog :=
  ⟨⟨⟨100, 1000⟩, 1, .callee (.transfer Sample.deployment.address Sample.deployment.postage (10 ^ 16))⟩, 0, 0⟩

theorem in_order {α : Type} (files : Dict String α) : files.Perm files := .refl files

def feeNode : Node where
  logs := [feeLog]
  blockTimestamp _ := 1000
  findGenesisBlock := 100
  extra := []
  priceDaily _ _ := []
  glob files := files
  globbed := @in_order

def feeSpec : DeploymentSpec := ⟨"sample", 100, "0x100", "v2", some 100⟩

/-- A sync killed after its one row and before the head marker. -/
def killed : Store := storeAfter Sample.deployment feeNode feeSpec [⟨100, 10000, some 1⟩]

def dailyFees (outcome : List Write × Except PyError ArtifactEntry) : Option (List Rat) :=
  outcome.2.toOption.map fun entry => entry.feeVolumeDaily.map DailyFee.bzz

/-- The next sync counts the fee twice. -/
theorem killed_sync_counts_twice :
    dailyFees (syncAndProject Sample.deployment feeNode feeSpec 10000 100 killed) = some [2] ∧
    dailyFees (syncAndProject Sample.deployment feeNode feeSpec 10000 100 .empty) = some [1] := by
  decide +kernel

/-- A sync killed after the head marker. -/
def checkpointed : Store := storeAfter Sample.deployment feeNode feeSpec [⟨100, 10000, some 2⟩]

theorem resumed_sync_is_one_shot_sample :
    ∃ entry,
      (syncAndProject Sample.deployment feeNode feeSpec 10000 100 checkpointed).2 = .ok entry ∧
      (syncAndProject Sample.deployment feeNode feeSpec 1 100 .empty).2 = .ok entry := by
  have ok : (syncAndProject Sample.deployment feeNode feeSpec 10000 100 checkpointed).2.isOk = true := by
    decide +kernel
  have head : checkpointed.head = some 100 := by decide +kernel
  have below : ∀ row ∈ checkpointed.rows, row.blockNumber ≤ 100 := by decide +kernel
  have identified : Identified feeNode.logs := List.pairwise_singleton ..
  obtain ⟨entry, completed⟩ := success_of_isOk ok
  exact ⟨entry, completed, resumed_sync_is_one_shot identified (by simp) (by simp) (by decide)
    (fun row member => ⟨100, head, below row member⟩) completed (by decide)⟩

end SwarmVolumes.Guarantees.SyncResume
