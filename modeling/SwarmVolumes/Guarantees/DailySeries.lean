import Mathlib.Algebra.BigOperators.Group.Finset.Piecewise
import Mathlib.Algebra.BigOperators.Ring.Finset
import SwarmVolumes.Guarantees.Projection

/-!
# Aligned series

An entry of any event log whose rows are decoded, in chain order and not before
genesis. The three series list the same days, the fees add up to the transfers, and
only the deployment's own rows up to `asOfTs` matter (`project_past`).
-/
namespace SwarmVolumes.Guarantees.DailySeries
open Library Source.Indexer Attribution Replay Projection

/-! ## Event logs -/

/-- The rows of one deployment. -/
def own (deploymentId : DeploymentId) (rows : List EventLogRow) : List EventLogRow :=
  rows.filter fun r => r.deploymentId = deploymentId

/-- A depth of the effective-capacity table. -/
def Listed (depth : Value) : Prop :=
  ∃ n : Int, depth = .int n ∧ (effectiveBytesTable.get? n).isSome = true

/-- The arguments the projector reads of a row are there, as decoding leaves them. -/
structure Readable (row : EventLogRow) : Prop where
  value : row.eventName = "Transfer" → ∃ value, row.args.get? "value" = some (natValue value)
  volume : row.eventName ∈ admitEvents ++ ["VolumeRetired", "Toppedup", "VolumeOwnershipTransferred"] →
    ∃ volumeId, row.args.get? "volume_id" = some volumeId
  depth : row.eventName ∈ admitEvents → ∃ depth, row.args.get? "depth" = some depth ∧ Listed depth
  owner : row.eventName ∈ admitEvents ++ accountEvents → ∃ owner, row.args.get? "owner" = some owner
  heir : row.eventName = "VolumeOwnershipTransferred" → ∃ owner, row.args.get? "to" = some owner

/-- An event log of a chain, as far as a deployment's rows go: position identifies a
row, time does not go back, a transaction is in one block, and nothing comes before
genesis. -/
structure Chronicle (deployment : Deployment) (rows : List EventLogRow) : Prop where
  positioned : Positioned (own deployment.deploymentId rows)
  timed : ∀ a ∈ own deployment.deploymentId rows, ∀ b ∈ own deployment.deploymentId rows,
    a.blockNumber ≤ b.blockNumber → a.blockTs ≤ b.blockTs
  transactions : ∀ a ∈ own deployment.deploymentId rows, ∀ b ∈ own deployment.deploymentId rows,
    a.txHash = b.txHash → a.blockNumber = b.blockNumber
  genesis : ∀ row ∈ own deployment.deploymentId rows, deployment.genesisTs ≤ row.blockTs
  readable : ∀ row ∈ own deployment.deploymentId rows, Readable row

/-- A deployment's rows in chain order. -/
def history (deploymentId : DeploymentId) (rows : List EventLogRow) : List EventLogRow :=
  canonical (own deploymentId rows)

/-- Those of them up to `asOfTs`. -/
def past (deploymentId : DeploymentId) (asOfTs : Nat) (rows : List EventLogRow) : List EventLogRow :=
  before LogRow.blockTs asOfTs (history deploymentId rows)

variable {deployment : Deployment} {deploymentId : DeploymentId} {rows rows' : List EventLogRow}
  {asOfTs : Nat}

theorem mem_history {row : EventLogRow} : row ∈ history deploymentId rows ↔ row ∈ own deploymentId rows :=
  (canonical_perm _).mem_iff

theorem history_ordered (deploymentId : DeploymentId) (rows : List EventLogRow) :
    (history deploymentId rows).Pairwise inOrder :=
  List.pairwise_insertionSort ..

/-- What `of` gives of a deployment's events. -/
theorem of_names (positioned : Positioned (own deploymentId rows)) {names : List String}
    (distinct : names.Nodup) :
    (eventsOf deploymentId rows).of names =
      (history deploymentId rows).filter fun row => row.eventName ∈ names := by
  have named : (rows.filter fun r => r.deploymentId = deploymentId ∧ r.eventName ∈ names) =
      (own deploymentId rows).filter fun r => r.eventName ∈ names := by
    rw [own, List.filter_filter]
    exact List.filter_congr fun r _ => by simp [Bool.and_comm]
  have within : Positioned ((own deploymentId rows).filter fun r => r.eventName ∈ names) :=
    fun a first b second => positioned a (List.mem_of_mem_filter first) b (List.mem_of_mem_filter second)
  rw [eventsOf, of_eq distinct positioned, named,
    canonical_congr within ((canonical_perm _).symm.filter _)]
  exact canonical_of_pairwise ((history_ordered deploymentId rows).filter _)

/-- The past is the same list for two logs with the same rows up to `asOfTs`. -/
theorem past_congr (positioned : Positioned (own deploymentId rows))
    (same : (before LogRow.blockTs asOfTs (own deploymentId rows)).Perm
      (before LogRow.blockTs asOfTs (own deploymentId rows'))) :
    past deploymentId asOfTs rows = past deploymentId asOfTs rows' := by
  have sorted : ∀ rows, past deploymentId asOfTs rows =
      canonical (past deploymentId asOfTs rows) := fun rows =>
    (canonical_of_pairwise ((history_ordered deploymentId rows).filter _)).symm
  have perm : (past deploymentId asOfTs rows).Perm (past deploymentId asOfTs rows') :=
    ((canonical_perm _).filter _).trans (same.trans ((canonical_perm _).symm.filter _))
  rw [sorted rows, sorted rows']
  refine canonical_congr (fun a first b second => ?_) perm
  exact positioned a (mem_history.mp (List.mem_of_mem_filter first)) b
    (mem_history.mp (List.mem_of_mem_filter second))

theorem own_past (deploymentId : DeploymentId) (asOfTs : Nat) (rows : List EventLogRow) :
    own deploymentId (past deploymentId asOfTs rows) = past deploymentId asOfTs rows := by
  refine List.filter_eq_self.mpr fun row member => ?_
  exact (List.mem_filter.mp (mem_history.mp (List.mem_of_mem_filter member))).2

theorem history_past (deploymentId : DeploymentId) (asOfTs : Nat) (rows : List EventLogRow) :
    history deploymentId (past deploymentId asOfTs rows) = past deploymentId asOfTs rows := by
  rw [history, own_past]
  exact canonical_of_pairwise ((history_ordered deploymentId rows).filter _)

namespace Chronicle

theorem history_timed (log : Chronicle deployment rows) :
    (history deployment.deploymentId rows).Pairwise fun a b => a.blockTs ≤ b.blockTs := by
  refine List.Pairwise.imp_of_mem (fun first second order => ?_)
    (history_ordered deployment.deploymentId rows)
  refine log.timed _ (mem_history.mp first) _ (mem_history.mp second) ?_
  unfold inOrder at order
  omega

/-- The past of a log is a log. -/
theorem truncate (log : Chronicle deployment rows) (asOfTs : Nat) :
    Chronicle deployment (past deployment.deploymentId asOfTs rows) := by
  have within : ∀ row ∈ own deployment.deploymentId (past deployment.deploymentId asOfTs rows),
      row ∈ own deployment.deploymentId rows := by
    intro row member
    rw [own_past] at member
    exact mem_history.mp (List.mem_of_mem_filter member)
  exact
    { positioned := fun a first b second => log.positioned a (within a first) b (within b second)
      timed := fun a first b second => log.timed a (within a first) b (within b second)
      transactions := fun a first b second => log.transactions a (within a first) b (within b second)
      genesis := fun row member => log.genesis row (within row member)
      readable := fun row member => log.readable row (within row member) }

end Chronicle

/-- A log is one whatever the order of its rows, and whatever other deployments add. -/
theorem Chronicle.of_own (log : Chronicle deployment rows)
    (same : (own deployment.deploymentId rows).Perm (own deployment.deploymentId rows')) :
    Chronicle deployment rows' where
  positioned a first b second :=
    log.positioned a (same.mem_iff.mpr first) b (same.mem_iff.mpr second)
  timed a first b second := log.timed a (same.mem_iff.mpr first) b (same.mem_iff.mpr second)
  transactions a first b second :=
    log.transactions a (same.mem_iff.mpr first) b (same.mem_iff.mpr second)
  genesis row member := log.genesis row (same.mem_iff.mpr member)
  readable row member := log.readable row (same.mem_iff.mpr member)

/-! ## Only the past matters -/

theorem firstDayOf_past (rows : List EventLogRow) (asOfTs : Nat) :
    firstDayOf (before LogRow.blockTs asOfTs rows) asOfTs = firstDayOf rows asOfTs := by
  rw [firstDayOf, firstDayOf, before, List.filter_filter]
  simp only [Bool.and_self]

theorem dayEnd_le {day asOfTs : Nat} (within : day ≤ asOfTs / oneDay) : dayEnd day asOfTs ≤ asOfTs := by
  unfold dayEnd oneDay at *
  dsimp only
  split
  · exact Nat.le_refl _
  · omega

namespace Chronicle

/-- What `of` gives of the past is what lies up to `asOfTs` of what it gives. -/
theorem of_past (log : Chronicle deployment rows) {names : List String} (distinct : names.Nodup)
    (asOfTs : Nat) :
    (eventsOf deployment.deploymentId (past deployment.deploymentId asOfTs rows)).of names =
      before LogRow.blockTs asOfTs ((eventsOf deployment.deploymentId rows).of names) := by
  rw [of_names (log.truncate asOfTs).positioned distinct, of_names log.positioned distinct, history_past,
    past, before, before, List.filter_comm]

theorem of_timed (log : Chronicle deployment rows) {names : List String} (distinct : names.Nodup) :
    ((eventsOf deployment.deploymentId rows).of names).Pairwise fun a b => a.blockTs ≤ b.blockTs := by
  rw [of_names log.positioned distinct]
  exact log.history_timed.filter _

theorem feeVolumeDaily_past (log : Chronicle deployment rows) (asOfTs : Nat) :
    feeVolumeDaily (eventsOf deployment.deploymentId rows) asOfTs =
      feeVolumeDaily (eventsOf deployment.deploymentId (past deployment.deploymentId asOfTs rows)) asOfTs := by
  have idle : ∀ tally row, decide (row.blockTs ≤ asOfTs) = false →
      feeStep asOfTs tally row = .ok tally := by
    intro tally row late
    have late' : asOfTs < row.blockTs := Nat.not_le.mp (of_decide_eq_false late)
    rw [feeStep, if_pos late']
  rw [feeVolumeDaily, feeVolumeDaily, log.of_past (by decide), before, foldlM_filter idle]

/-- A walk that stops by then does not see the rest. -/
theorem upTo_past (log : Chronicle deployment rows) {names : List String} (distinct : names.Nodup)
    {cutoff : Nat} (early : cutoff ≤ asOfTs) :
    upTo cutoff ((eventsOf deployment.deploymentId (past deployment.deploymentId asOfTs rows)).of names) =
      upTo cutoff ((eventsOf deployment.deploymentId rows).of names) := by
  have timed := log.of_timed distinct
  rw [upTo, upTo, log.of_past distinct, takeWhile_eq_before timed]
  unfold before
  rw [takeWhile_eq_before (timed.filter _), before, List.filter_filter]
  refine List.filter_congr fun row _ => ?_
  rw [← Bool.decide_and]
  exact decide_eq_decide.mpr ⟨And.left, fun kept => ⟨kept, kept.trans early⟩⟩

theorem capacityDaily_past (log : Chronicle deployment rows) (asOfTs : Nat) :
    capacityDaily (eventsOf deployment.deploymentId rows) asOfTs =
      capacityDaily (eventsOf deployment.deploymentId (past deployment.deploymentId asOfTs rows)) asOfTs := by
  rw [capacityDaily, capacityDaily, log.of_past (by decide), firstDayOf_past]
  refine mapM_congr fun day member => ?_
  have within : dayEnd day asOfTs ≤ asOfTs := dayEnd_le (mem_dayRange.mp member).2
  rw [capacityAt, capacityAt, activeSetAt, activeSetAt, log.upTo_past (by decide) within]

theorem accountsDaily_past (log : Chronicle deployment rows) (asOfTs : Nat) :
    accountsDaily (eventsOf deployment.deploymentId rows) asOfTs =
      accountsDaily (eventsOf deployment.deploymentId (past deployment.deploymentId asOfTs rows)) asOfTs := by
  rw [accountsDaily, accountsDaily, log.of_past (by decide), firstDayOf_past]
  refine mapM_congr fun day member => ?_
  have within : dayEnd day asOfTs ≤ asOfTs := dayEnd_le (mem_dayRange.mp member).2
  rw [accountsAt, accountsAt, authorizedAt, authorizedAt, log.upTo_past (by decide) within]

theorem mem_of (log : Chronicle deployment rows) {names : List String} (distinct : names.Nodup)
    {row : EventLogRow} (member : row ∈ (eventsOf deployment.deploymentId rows).of names) :
    row ∈ own deployment.deploymentId rows ∧ row.eventName ∈ names := by
  rw [of_names log.positioned distinct] at member
  exact ⟨mem_history.mp (List.mem_of_mem_filter member), of_decide_eq_true (List.mem_filter.mp member).2⟩

theorem legible (log : Chronicle deployment rows) : Legible (eventsOf deployment.deploymentId rows) where
  owners row member := by
    obtain ⟨listed, named⟩ := log.mem_of (by decide) member
    have readable := log.readable row listed
    have subject : ∃ volumeId, row.args.get? "volume_id" = some volumeId := by
      refine readable.volume ?_
      rcases List.mem_append.mp named with admits | heir
      · exact List.mem_append_left _ admits
      · rw [List.mem_singleton.mp heir]
        decide
    obtain ⟨volumeId, volume⟩ := subject
    unfold ownership
    by_cases admits : row.eventName ∈ admitEvents
    · obtain ⟨owner, owned⟩ := readable.owner (List.mem_append_left _ admits)
      rw [if_pos admits, owned, volume]
      exact ⟨_, rfl⟩
    · have moved := List.mem_singleton.mp ((List.mem_append.mp named).resolve_left admits)
      obtain ⟨owner, owned⟩ := readable.heir moved
      rw [if_neg admits, owned, volume]
      exact ⟨_, rfl⟩
  volumes row member other := by
    obtain ⟨listed, named⟩ := log.mem_of (by decide) member
    refine (log.readable row listed).volume ?_
    rcases List.mem_cons.mp named with transfer | sibling
    · exact absurd transfer other
    · rcases List.mem_cons.mp sibling with topup | created
      · rw [topup]
        decide
      · rw [List.mem_singleton.mp created]
        decide

/-- A row's transaction lies on its side of `asOfTs`. -/
theorem same_transaction (log : Chronicle deployment rows) {row other : EventLogRow}
    (member : row ∈ own deployment.deploymentId rows) (member' : other ∈ own deployment.deploymentId rows)
    (same : other.txHash = row.txHash) : other.blockTs ≤ row.blockTs :=
  log.timed other member' row member (log.transactions other member' row member same).le

/-- Rows of the transaction of a past row are past. -/
theorem transaction_past (log : Chronicle deployment rows) (keep : EventLogRow → Bool) {row : EventLogRow}
    (member : row ∈ own deployment.deploymentId rows) (early : row.blockTs ≤ asOfTs) :
    (((eventsOf deployment.deploymentId (past deployment.deploymentId asOfTs rows)).of paymentEvents).filter
        keep).filter (fun r => r.txHash = row.txHash) =
      (((eventsOf deployment.deploymentId rows).of paymentEvents).filter keep).filter
        fun r => r.txHash = row.txHash := by
  rw [log.of_past (by decide), before, List.filter_filter, List.filter_filter, List.filter_filter]
  refine List.filter_congr fun other listed => ?_
  by_cases same : other.txHash = row.txHash
  · have member' := (log.mem_of (by decide) listed).1
    have early' : other.blockTs ≤ asOfTs := (log.same_transaction member member' same).trans early
    simp [early']
  · simp [same]

theorem sibling_past (log : Chronicle deployment rows) {transfer sibling : EventLogRow}
    (early : transfer.blockTs ≤ asOfTs) :
    Sibling (eventsOf deployment.deploymentId (past deployment.deploymentId asOfTs rows)) transfer sibling ↔
      Sibling (eventsOf deployment.deploymentId rows) transfer sibling := by
  have moved : ∀ txHash, transfer ∈ own deployment.deploymentId rows → transfer.txHash = txHash →
      transfers (eventsOf deployment.deploymentId (past deployment.deploymentId asOfTs rows)) txHash =
        transfers (eventsOf deployment.deploymentId rows) txHash ∧
      siblings (eventsOf deployment.deploymentId (past deployment.deploymentId asOfTs rows)) txHash =
        siblings (eventsOf deployment.deploymentId rows) txHash := by
    rintro _ member rfl
    exact ⟨log.transaction_past _ member early, log.transaction_past _ member early⟩
  constructor
  · rintro ⟨txHash, i, first, second⟩
    obtain ⟨listed, same⟩ := List.mem_filter.mp (List.mem_of_getElem? first)
    have inside := ((log.truncate asOfTs).mem_of (by decide) (List.mem_of_mem_filter listed)).1
    rw [own_past] at inside
    obtain ⟨transferring, naming⟩ :=
      moved txHash (mem_history.mp (List.mem_of_mem_filter inside)) (of_decide_eq_true same)
    exact ⟨txHash, i, transferring ▸ first, naming ▸ second⟩
  · rintro ⟨txHash, i, first, second⟩
    obtain ⟨listed, same⟩ := List.mem_filter.mp (List.mem_of_getElem? first)
    have inside := (log.mem_of (by decide) (List.mem_of_mem_filter listed)).1
    obtain ⟨transferring, naming⟩ := moved txHash inside (of_decide_eq_true same)
    exact ⟨txHash, i, transferring.symm ▸ first, naming.symm ▸ second⟩

/-- The owner at the end of a past block was made so by past rows. -/
theorem held_past (log : Chronicle deployment rows) (volumeId : Value) {row : EventLogRow}
    (member : row ∈ own deployment.deploymentId rows) (early : row.blockTs ≤ asOfTs) :
    heldAfterBlock (eventsOf deployment.deploymentId (past deployment.deploymentId asOfTs rows)) volumeId row =
      heldAfterBlock (eventsOf deployment.deploymentId rows) volumeId row := by
  rw [heldAfterBlock, heldAfterBlock, log.of_past (by decide), before, List.filter_filter]
  refine congrArg (lastOwner volumeId) (List.filter_congr fun other listed => ?_)
  by_cases below : other.blockNumber ≤ row.blockNumber
  · have member' := (log.mem_of (by decide) listed).1
    have early' : other.blockTs ≤ asOfTs := (log.timed other member' row member below).trans early
    simp [early']
  · simp [below]

theorem paidInWindow_past (log : Chronicle deployment rows) (asOfTs : Nat) (windows : List Nat) :
    paidInWindow (eventsOf deployment.deploymentId rows) asOfTs windows =
      paidInWindow (eventsOf deployment.deploymentId (past deployment.deploymentId asOfTs rows)) asOfTs
        windows := by
  obtain ⟨timeline, _, held, ran⟩ := paidInWindow_eq log.legible asOfTs windows
  obtain ⟨timeline', _, held', ran'⟩ := paidInWindow_eq (log.truncate asOfTs).legible asOfTs windows
  have same : ∀ n, payers (eventsOf deployment.deploymentId rows) timeline asOfTs n =
      payers (eventsOf deployment.deploymentId (past deployment.deploymentId asOfTs rows)) timeline' asOfTs
        n := by
    intro n
    ext owner
    rw [mem_payers, mem_payers]
    refine exists_congr fun transfer => exists_congr fun sibling => ?_
    rw [held, held']
    by_cases early : transfer.blockTs ≤ asOfTs
    · rw [log.sibling_past early]
      refine and_congr_right fun paired => ?_
      obtain ⟨txHash, i, first, _⟩ := paired
      have listed := List.mem_of_mem_filter (List.mem_of_mem_filter (List.mem_of_getElem? first))
      rw [log.held_past _ (log.mem_of (by decide) listed).1 early]
    · simp [early]
  rw [ran, ran']
  simp only [same]

/-- The entry is that of the past alone. -/
theorem project_past (log : Chronicle deployment rows) (priceDaily : List DailyPrice)
    (asOfBlock asOfTs : Nat) :
    projectEntry deployment (RowLog.fromRows rows) priceDaily asOfBlock asOfTs =
      projectEntry deployment (RowLog.fromRows (past deployment.deploymentId asOfTs rows)) priceDaily
        asOfBlock asOfTs := by
  have fees := log.feeVolumeDaily_past asOfTs
  have capacity := log.capacityDaily_past asOfTs
  have accounts := log.accountsDaily_past asOfTs
  have paid := log.paidInWindow_past asOfTs paidInWindowDays
  unfold eventsOf at fees capacity accounts paid
  unfold projectEntry
  dsimp only
  rw [fees, capacity, accounts, paid]

end Chronicle

/-! ## Stocks -/

theorem Listed.nominal {depth : Value} (listed : Listed depth) : ∃ bytes, nominalBytes depth = .ok bytes := by
  obtain ⟨n, rfl, known⟩ := listed
  obtain ⟨bytes, found⟩ := Option.isSome_iff_exists.mp known
  have positive : ∀ entry ∈ effectiveBytesTable, 0 ≤ entry.1 := by decide
  have n_positive : 0 ≤ n := positive (n, bytes) ((Dict.mem_iff_get? (by decide)).mpr found)
  rw [nominalBytes, if_neg (not_lt.mpr n_positive)]
  exact ⟨_, rfl⟩

theorem Listed.effective {depth : Value} (listed : Listed depth) :
    ∃ bytes, effectiveBytes depth = .ok bytes := by
  obtain ⟨n, rfl, known⟩ := listed
  obtain ⟨bytes, found⟩ := Option.isSome_iff_exists.mp known
  rw [effectiveBytes, found]
  exact ⟨bytes, rfl⟩

theorem sumOf_total {f : Value → Except PyError Int} {depths : List Value}
    (each : ∀ depth ∈ depths, ∃ bytes, f depth = .ok bytes) : ∃ sum, sumOf f depths = .ok sum := by
  obtain ⟨sum, summed, _⟩ : ∃ sum, sumOf f depths = .ok sum ∧ True := by
    refine foldlM_total (fun _ => True) (fun total depth member _ => ?_) trivial
    obtain ⟨bytes, found⟩ := each depth member
    exact ⟨total + bytes, by rw [found, ok_bind], trivial⟩
  exact ⟨sum, summed⟩

namespace Chronicle

theorem active_ok (log : Chronicle deployment rows) (cutoff : Nat) :
    ∃ active, activeSetAt (eventsOf deployment.deploymentId rows) cutoff = .ok active ∧
      ∀ depth ∈ active.values, Listed depth := by
  refine foldlM_total (fun active : Dict Value Value => ∀ depth ∈ active.values, Listed depth)
    (fun active row member listed => ?_) nofun
  obtain ⟨inside, named⟩ := log.mem_of (by decide) (List.takeWhile_subset _ member)
  have readable := log.readable row inside
  unfold activeStep
  by_cases admits : row.eventName ∈ admitEvents
  · obtain ⟨depth, found, known⟩ := readable.depth admits
    obtain ⟨volumeId, volume⟩ := readable.volume (List.mem_append_left _ admits)
    rw [if_pos admits, arg_ok found, ok_bind, arg_ok volume, ok_bind]
    refine ⟨_, rfl, fun other set => ?_⟩
    obtain ⟨entry, entered, rfl⟩ := List.mem_map.mp set
    rcases Dict.mem_set entered with old | rfl
    · exact listed _ (List.mem_map_of_mem old)
    · exact known
  · have retired := List.mem_singleton.mp ((List.mem_append.mp named).resolve_left admits)
    obtain ⟨volumeId, volume⟩ := readable.volume (by rw [retired]; decide)
    rw [if_neg admits, arg_ok volume, ok_bind]
    refine ⟨_, rfl, fun other left => ?_⟩
    obtain ⟨entry, entered, rfl⟩ := List.mem_map.mp left
    exact listed _ (List.mem_map_of_mem (List.mem_of_mem_filter entered))

theorem capacity_ok (log : Chronicle deployment rows) (asOfTs day : Nat) :
    ∃ sampled, capacityAt (eventsOf deployment.deploymentId rows) asOfTs day = .ok sampled ∧
      sampled.date = day := by
  obtain ⟨active, replayed, listed⟩ := log.active_ok (dayEnd day asOfTs)
  obtain ⟨nominal, first⟩ := sumOf_total fun depth member => (listed depth member).nominal
  obtain ⟨effective, second⟩ := sumOf_total fun depth member => (listed depth member).effective
  unfold capacityAt
  dsimp only
  rw [replayed, ok_bind, first, ok_bind, second, ok_bind]
  exact ⟨_, rfl, rfl⟩

/-- Before the first admission the volumes are none. -/
theorem capacity_idle (log : Chronicle deployment rows) {asOfTs day : Nat}
    (early : day < firstDayOf ((eventsOf deployment.deploymentId rows).of admitEvents) asOfTs) :
    capacityAt (eventsOf deployment.deploymentId rows) asOfTs day = .ok ⟨day, 0, 0, 0⟩ := by
  obtain ⟨active, replayed, _⟩ := log.active_ok (dayEnd day asOfTs)
  obtain rfl : active = [] := by
    refine activeStep_quiet (fun row member admits => ?_) replayed
    have within : row.blockTs ≤ dayEnd day asOfTs := by
      simpa using List.mem_takeWhile_imp member
    have inside := (log.mem_of (by decide) (List.takeWhile_subset _ member)).1
    refine absurd (before_firstDay early row ?_) (Nat.not_lt.mpr within)
    rw [of_names log.positioned (by decide)]
    exact List.mem_filter.mpr ⟨mem_history.mpr inside, by simpa using admits⟩
  unfold capacityAt
  dsimp only
  rw [replayed]
  rfl

theorem accounts_ok (log : Chronicle deployment rows) (asOfTs day : Nat) :
    ∃ sampled, accountsAt (eventsOf deployment.deploymentId rows) asOfTs day = .ok sampled ∧
      sampled.date = day := by
  obtain ⟨active, replayed, _⟩ : ∃ active, (upTo (dayEnd day asOfTs)
      ((eventsOf deployment.deploymentId rows).of accountEvents)).foldlM authorizedStep ∅ = .ok active ∧
        True := by
    refine foldlM_total (fun _ => True) (fun active row member _ => ?_) trivial
    obtain ⟨inside, named⟩ := log.mem_of (by decide) (List.takeWhile_subset _ member)
    obtain ⟨owner, owned⟩ := (log.readable row inside).owner (List.mem_append_right _ named)
    unfold authorizedStep
    rw [arg_ok owned]
    by_cases activated : row.eventName = "AccountActivated"
    · rw [if_pos activated]
      exact ⟨_, rfl, trivial⟩
    · rw [if_neg activated]
      exact ⟨_, rfl, trivial⟩
  rw [accountsAt, authorizedAt, replayed]
  exact ⟨_, rfl, rfl⟩

/-- Before the first account event no owner is authorized. -/
theorem accounts_idle {asOfTs day : Nat}
    (early : day < firstDayOf ((eventsOf deploymentId rows).of accountEvents) asOfTs) :
    accountsAt (eventsOf deploymentId rows) asOfTs day = .ok ⟨day, 0⟩ := by
  have empty : upTo (dayEnd day asOfTs) ((eventsOf deploymentId rows).of accountEvents) = [] := by
    refine List.eq_nil_iff_forall_not_mem.mpr fun row member => ?_
    have within : row.blockTs ≤ dayEnd day asOfTs := by
      simpa using List.mem_takeWhile_imp member
    exact Nat.not_lt.mpr within (before_firstDay early row (List.takeWhile_subset _ member))
  rw [accountsAt, authorizedAt, empty]
  rfl

theorem after_genesis (log : Chronicle deployment rows) {names : List String} (distinct : names.Nodup) :
    ∀ row ∈ (eventsOf deployment.deploymentId rows).of names, deployment.genesisTs ≤ row.blockTs :=
  fun row member => log.genesis row (log.mem_of distinct member).1

theorem capacity_series (log : Chronicle deployment rows) (started : deployment.genesisTs ≤ asOfTs) :
    ∃ sample : Nat → DailyCapacity, (∀ day, (sample day).date = day) ∧
      ∃ series, capacityDaily (eventsOf deployment.deploymentId rows) asOfTs = .ok series ∧
        padFront DailyCapacity.date series (deployment.genesisTs / oneDay) (fun day => ⟨day, 0, 0, 0⟩) =
          (reported deployment asOfTs).map sample := by
  choose sample sampled dated using log.capacity_ok asOfTs
  refine ⟨sample, dated, _, mapM_ok fun day _ => sampled day, ?_⟩
  refine padFront_range dated (le_firstDayOf (log.after_genesis (by decide)) started) (firstDayOf_le ..)
    fun day early => ?_
  exact Except.ok.inj ((sampled day).symm.trans (log.capacity_idle early))

theorem accounts_series (log : Chronicle deployment rows) (started : deployment.genesisTs ≤ asOfTs) :
    ∃ sample : Nat → DailyAccounts, (∀ day, (sample day).date = day) ∧
      ∃ series, accountsDaily (eventsOf deployment.deploymentId rows) asOfTs = .ok series ∧
        padFront DailyAccounts.date series (deployment.genesisTs / oneDay) (fun day => ⟨day, 0⟩) =
          (reported deployment asOfTs).map sample := by
  choose sample sampled dated using log.accounts_ok asOfTs
  refine ⟨sample, dated, _, mapM_ok fun day _ => sampled day, ?_⟩
  refine padFront_range dated (le_firstDayOf (log.after_genesis (by decide)) started) (firstDayOf_le ..)
    fun day early => ?_
  exact Except.ok.inj ((sampled day).symm.trans (accounts_idle early))

end Chronicle

/-! ## Flows -/

/-- What a transfer moves. -/
def transferValue (row : EventLogRow) : Nat :=
  match row.args.get? "value" with
  | some (.int value) => value.toNat
  | _ => 0

/-- A fee with its time. -/
def fee (row : EventLogRow) : Nat × Nat := (row.blockTs, transferValue row)

/-- The deployment's transfers up to `asOfTs`. -/
def forwarded (deploymentId : DeploymentId) (rows : List EventLogRow) (asOfTs : Nat) : Nat :=
  ((rows.filter fun r => r.deploymentId = deploymentId ∧ r.eventName = "Transfer" ∧
    r.blockTs ≤ asOfTs).map transferValue).sum

theorem feeStep_eq {row : EventLogRow} {value : Nat} (present : row.args.get? "value" = some (natValue value))
    (tally : FeeTally) : feeStep asOfTs tally row = .ok (tallyStep asOfTs tally (fee row)) := by
  have moved : transferValue row = value := by
    rw [transferValue, present]
    rfl
  unfold feeStep tallyStep fee
  dsimp only
  rw [moved, arg_ok present]
  by_cases late : asOfTs < row.blockTs
  · rw [if_pos late, if_pos late]
  · rw [if_neg late, if_neg late]
    rfl

theorem feeLoop_eq {rows : List EventLogRow}
    (present : ∀ row ∈ rows, ∃ value, row.args.get? "value" = some (natValue value)) (tally : FeeTally) :
    rows.foldlM (feeStep asOfTs) tally = .ok ((rows.map fee).foldl (tallyStep asOfTs) tally) := by
  induction rows generalizing tally with
  | nil => rfl
  | cons row rows ih =>
    obtain ⟨value, here⟩ := present row (List.mem_cons_self ..)
    rw [List.foldlM_cons, feeStep_eq here, ok_bind, List.map_cons, List.foldl_cons]
    exact ih (fun row' member => present row' (List.mem_cons_of_mem _ member)) _

/-- One day of a range takes what is counted on it. -/
theorem sum_on_day {first last day : Nat} (inside : first ≤ day ∧ day ≤ last) (amount : Nat) :
    ((dayRange first last).map fun day' => if day = day' then amount else 0).sum = amount := by
  have distinct : (dayRange first last).Nodup := List.nodup_range'
  rw [← List.sum_toFinset _ distinct, Finset.sum_ite_eq,
    if_pos (List.mem_toFinset.mpr (mem_dayRange.mpr inside))]

/-- The days' sums add up to the fees up to `asOfTs`. -/
theorem sum_feeSum {fees : List (Nat × Nat)} {genesisTs asOfTs : Nat}
    (after : ∀ fee ∈ fees, genesisTs ≤ fee.1) :
    ((dayRange (genesisTs / oneDay) (asOfTs / oneDay)).map fun day => feeSum asOfTs day fees).sum =
      ((fees.filter fun fee => fee.1 ≤ asOfTs).map Prod.snd).sum := by
  induction fees with
  | nil => simp [feeSum]
  | cons fee fees ih =>
    have rest := ih fun other member => after other (List.mem_cons_of_mem _ member)
    have first := after fee (List.mem_cons_self ..)
    by_cases early : fee.1 ≤ asOfTs
    · have split : ∀ day, feeSum asOfTs day (fee :: fees) =
          (if fee.1 / oneDay = day then fee.2 else 0) + feeSum asOfTs day fees := by
        intro day
        rw [← List.singleton_append, feeSum_append]
        by_cases counted : fee.1 / oneDay = day
        · simp [feeSum, early, counted]
        · simp [feeSum, counted]
      have within : genesisTs / oneDay ≤ fee.1 / oneDay ∧ fee.1 / oneDay ≤ asOfTs / oneDay :=
        ⟨Nat.div_le_div_right first, Nat.div_le_div_right early⟩
      rw [List.filter_cons_of_pos (by simpa using early), List.map_cons, List.sum_cons, ← rest,
        List.map_congr_left fun day _ => split day, List.sum_map_add, sum_on_day within]
    · have same : ∀ day, feeSum asOfTs day (fee :: fees) = feeSum asOfTs day fees := by
        intro day
        rw [← List.singleton_append, feeSum_append]
        simp [feeSum, early]
      rw [List.filter_cons_of_neg (by simpa using early), ← rest, List.map_congr_left fun day _ => same day]

namespace Chronicle

theorem transfers_eq (log : Chronicle deployment rows) (asOfTs : Nat) :
    (((((eventsOf deployment.deploymentId rows).of ["Transfer"]).map fee).filter
        fun fee => fee.1 ≤ asOfTs).map Prod.snd).sum =
      forwarded deployment.deploymentId rows asOfTs := by
  have kept : (rows.filter fun r => r.deploymentId = deployment.deploymentId ∧ r.eventName = "Transfer" ∧
      r.blockTs ≤ asOfTs) =
      ((own deployment.deploymentId rows).filter fun r => r.eventName ∈ ["Transfer"]).filter
        fun r => r.blockTs ≤ asOfTs := by
    rw [own, List.filter_filter, List.filter_filter]
    refine List.filter_congr fun r _ => ?_
    rw [← Bool.decide_and, ← Bool.decide_and]
    exact decide_eq_decide.mpr (by simp only [List.mem_singleton]; tauto)
  rw [of_names log.positioned (by decide), List.filter_map, List.map_map, forwarded, kept]
  exact ((((canonical_perm _).filter _).filter _).map _).sum_eq

theorem fee_series (log : Chronicle deployment rows) (started : deployment.genesisTs ≤ asOfTs) :
    ∃ sums : Nat → Nat, ((reported deployment asOfTs).map sums).sum =
        forwarded deployment.deploymentId rows asOfTs ∧
      ∃ series, feeVolumeDaily (eventsOf deployment.deploymentId rows) asOfTs = .ok series ∧
        padFront DailyFee.date series (deployment.genesisTs / oneDay) (fun day => ⟨day, 0⟩) =
          (reported deployment asOfTs).map fun day => ⟨day, (sums day : Rat) / plurPerBzz⟩ := by
  let fees := ((eventsOf deployment.deploymentId rows).of ["Transfer"]).map fee
  have after : ∀ fee ∈ fees, deployment.genesisTs ≤ fee.1 :=
    List.forall_mem_map.mpr (log.after_genesis (by decide))
  have present : ∀ row ∈ (eventsOf deployment.deploymentId rows).of ["Transfer"],
      ∃ value, row.args.get? "value" = some (natValue value) := by
    intro row member
    obtain ⟨inside, named⟩ := log.mem_of (by decide) member
    exact (log.readable row inside).value (List.mem_singleton.mp named)
  refine ⟨fun day => feeSum asOfTs day fees, (sum_feeSum after).trans (log.transfers_eq asOfTs), ?_⟩
  unfold feeVolumeDaily
  rw [feeLoop_eq present, ok_bind]
  exact ⟨_, rfl, tally_series after started⟩

end Chronicle

theorem sum_quotients (days : List Nat) (sums : Nat → Nat) :
    (days.map fun day => (sums day : Rat) / plurPerBzz).sum = ((days.map sums).sum : Nat) / plurPerBzz := by
  simp only [div_eq_mul_inv, List.sum_map_mul_right, Nat.cast_list_sum, List.map_map, Function.comp_def]

/-! ## The entry -/

/-- Every day of an interval once, in order. -/
structure EveryDay (first last : Nat) (days : List Nat) : Prop where
  ascending : days.Pairwise (· < ·)
  complete : ∀ day, day ∈ days ↔ first ≤ day ∧ day ≤ last

theorem everyDay_dayRange (first last : Nat) : EveryDay first last (dayRange first last) where
  ascending := List.pairwise_lt_range'
  complete _ := mem_dayRange

/-- What an entry says of a log: of every day from genesis to `asOfTs` a fee, a
capacity and an account level, fees that add up, and a snapshot of the last day. -/
structure Aligned (deployment : Deployment) (rows : List EventLogRow) (asOfTs : Nat)
    (entry : ArtifactEntry) : Prop where
  days : EveryDay (deployment.genesisTs / oneDay) (asOfTs / oneDay) (entry.feeVolumeDaily.map DailyFee.date)
  capacityDays : entry.capacityDaily.map DailyCapacity.date = entry.feeVolumeDaily.map DailyFee.date
  accountsDays : entry.accountsDaily.map DailyAccounts.date = entry.feeVolumeDaily.map DailyFee.date
  conserved : (entry.feeVolumeDaily.map DailyFee.bzz).sum =
    (forwarded deployment.deploymentId rows asOfTs : Rat) / 10 ^ 16
  total : entry.snapshot.feeVolumeTotalBzz = (forwarded deployment.deploymentId rows asOfTs : Rat) / 10 ^ 16
  lastCapacity : ∃ last, entry.capacityDaily.getLast? = some last ∧
    entry.snapshot.capacity = ⟨last.activeVolumes, last.nominalBytes, last.effectiveBytes⟩
  lastAccounts : ∃ last, entry.accountsDaily.getLast? = some last ∧
    entry.snapshot.accounts.authorized = last.authorized

theorem Chronicle.entry (log : Chronicle deployment rows) (started : deployment.genesisTs ≤ asOfTs)
    (priceDaily : List DailyPrice) (asOfBlock : Nat) :
    ∃ entry, projectEntry deployment (RowLog.fromRows rows) priceDaily asOfBlock asOfTs = .ok entry ∧
      Aligned deployment rows asOfTs entry := by
  obtain ⟨sums, conserved, _, fees, feeSeries⟩ := log.fee_series started
  obtain ⟨capacities, dated, _, capacity, capSeries⟩ := log.capacity_series started
  obtain ⟨levels, dated', _, accounts, accSeries⟩ := log.accounts_series started
  obtain ⟨_, _, _, paid⟩ := paidInWindow_eq log.legible asOfTs paidInWindowDays
  have days : reported deployment asOfTs ≠ [] := by
    have ended : deployment.genesisTs / oneDay ≤ asOfTs / oneDay := Nat.div_le_div_right started
    exact List.ne_nil_of_mem (mem_dayRange.mpr ⟨Nat.le_refl _, ended⟩)
  have last : ∀ {α : Type} (f : Nat → α), ∃ a, ((reported deployment asOfTs).map f).getLast? = some a :=
    fun f => ⟨_, List.getLast?_eq_some_getLast (mt List.map_eq_nil_iff.mp days)⟩
  obtain ⟨lastCap, lastCapacity⟩ := last capacities
  obtain ⟨lastAcc, lastAccounts⟩ := last levels
  have total : (((reported deployment asOfTs).map fun day =>
      (⟨day, (sums day : Rat) / plurPerBzz⟩ : DailyFee)).map DailyFee.bzz).sum =
        (forwarded deployment.deploymentId rows asOfTs : Rat) / 10 ^ 16 := by
    rw [List.map_map, ← conserved]
    refine (sum_quotients ..).trans ?_
    norm_num [plurPerBzz]
  unfold eventsOf at fees capacity accounts paid
  unfold projectEntry
  dsimp only
  rw [fees, ok_bind, capacity, ok_bind, accounts, ok_bind, paid, ok_bind, feeSeries, capSeries, accSeries,
    lastCapacity, lastAccounts]
  refine ⟨_, rfl, ?_, ?_, ?_, total, total, ⟨lastCap, lastCapacity, rfl⟩, ⟨lastAcc, lastAccounts, rfl⟩⟩
  · rw [List.map_map]
    exact (List.map_id (reported deployment asOfTs)).symm ▸ everyDay_dayRange ..
  · rw [List.map_map, List.map_map]
    exact List.map_congr_left fun day _ => dated day
  · rw [List.map_map, List.map_map]
    exact List.map_congr_left fun day _ => dated' day

/-- Every event log has an entry with aligned series, whose fees are the transfers. It
is that of every log with the same rows of the deployment, and of every log that has
the same of them up to `asOfTs`. -/
theorem aligned_series (log : Chronicle deployment rows) (started : deployment.genesisTs ≤ asOfTs)
    (priceDaily : List DailyPrice) (asOfBlock : Nat) :
    ∃ entry, projectEntry deployment (RowLog.fromRows rows) priceDaily asOfBlock asOfTs = .ok entry ∧
      Aligned deployment rows asOfTs entry ∧
      (∀ rows', (own deployment.deploymentId rows).Perm (own deployment.deploymentId rows') →
        projectEntry deployment (RowLog.fromRows rows') priceDaily asOfBlock asOfTs = .ok entry) ∧
      ∀ rows', Chronicle deployment rows' →
        ((own deployment.deploymentId rows).filter fun row => row.blockTs ≤ asOfTs).Perm
          ((own deployment.deploymentId rows').filter fun row => row.blockTs ≤ asOfTs) →
        projectEntry deployment (RowLog.fromRows rows') priceDaily asOfBlock asOfTs = .ok entry := by
  obtain ⟨entry, projected, aligned⟩ := log.entry started priceDaily asOfBlock
  have unchanged : ∀ rows', Chronicle deployment rows' →
      (before LogRow.blockTs asOfTs (own deployment.deploymentId rows)).Perm
        (before LogRow.blockTs asOfTs (own deployment.deploymentId rows')) →
      projectEntry deployment (RowLog.fromRows rows') priceDaily asOfBlock asOfTs = .ok entry := by
    intro rows' log' same
    rw [log'.project_past, ← past_congr log.positioned same, ← log.project_past, projected]
  refine ⟨entry, projected, aligned, fun rows' same => ?_, unchanged⟩
  exact unchanged rows' (log.of_own same) (same.filter _)

/-! ## A log of two deployments -/

def sampleVolume : Dict String Value :=
  [("volume_id", .str "0xv"), ("owner", .str "0xA"), ("depth", .int 20)]

/-- A creation and its fee, and a fee after the next midnight. -/
def sampleRows : List EventLogRow :=
  [sampleRow 10 0 "0xa1" "Transfer" [("value", natValue (10 ^ 16))],
    sampleRow 10 1 "0xa1" "VolumeCreated" sampleVolume,
    sampleRow 90000 0 "0xa2" "Transfer" [("value", natValue 5)]]

/-- The first day alone, backwards, with a row of another deployment. -/
def sampleShorter : List EventLogRow :=
  { sampleRow 10 0 "0xb1" "Transfer" [] with deploymentId := (1, "0x1") } :: (sampleRows.take 2).reverse

def sampleRegistered : Deployment where
  label := "sample"
  chainId := 100
  registry := "0x1"
  registryVersion := "v2"
  genesisTs := 1000
  fiatCurrencies := []
  extra := []

theorem readable_transfer {row : EventLogRow} {value : Nat} (named : row.eventName = "Transfer")
    (present : row.args.get? "value" = some (natValue value)) : Readable row := by
  refine ⟨fun _ => ⟨value, present⟩, ?_, ?_, ?_, ?_⟩
  all_goals
    rw [named]
    exact fun listed => absurd listed (by decide)

theorem readable_sampleVolume : Readable (sampleRow 10 1 "0xa1" "VolumeCreated" sampleVolume) :=
  ⟨fun named => absurd named (by decide), fun _ => ⟨_, rfl⟩, fun _ => ⟨_, rfl, 20, rfl, rfl⟩,
    fun _ => ⟨_, rfl⟩, fun named => absurd named (by decide)⟩

theorem sampleRows_chronicle : Chronicle sampleRegistered sampleRows where
  positioned := by
    unfold Positioned
    decide +kernel
  timed := by decide +kernel
  transactions := by decide +kernel
  genesis := by decide +kernel
  readable := by
    have all : own sampleRegistered.deploymentId sampleRows = sampleRows := by decide +kernel
    rw [all]
    exact List.forall_mem_cons.mpr ⟨readable_transfer rfl rfl, List.forall_mem_cons.mpr
      ⟨readable_sampleVolume, List.forall_mem_singleton.mpr (readable_transfer rfl rfl)⟩⟩

theorem sampleShorter_chronicle : Chronicle sampleRegistered sampleShorter := by
  have kept : (own sampleRegistered.deploymentId (past sampleRegistered.deploymentId 2000 sampleRows)).Perm
      (own sampleRegistered.deploymentId sampleShorter) := by
    decide +kernel
  exact (sampleRows_chronicle.truncate 2000).of_own kept

theorem aligned_series_sample : ∃ entry,
    projectEntry sampleRegistered (RowLog.fromRows sampleRows) [] 10 2000 = .ok entry ∧
    projectEntry sampleRegistered (RowLog.fromRows sampleShorter) [] 10 2000 = .ok entry ∧
    entry.snapshot.feeVolumeTotalBzz = 1 := by
  obtain ⟨entry, projected, aligned, _, unchanged⟩ :=
    aligned_series sampleRows_chronicle (show 1000 ≤ 2000 by decide) [] 10
  refine ⟨entry, projected, unchanged sampleShorter sampleShorter_chronicle (by decide +kernel), ?_⟩
  have moved : forwarded sampleRegistered.deploymentId sampleRows 2000 = 10 ^ 16 := by decide +kernel
  rw [aligned.total, moved]
  norm_num

end SwarmVolumes.Guarantees.DailySeries
