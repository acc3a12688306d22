import SwarmVolumes.Guarantees.Attribution
import SwarmVolumes.Guarantees.Replay
import SwarmVolumes.Source.Registry.Sample
import Mathlib.Algebra.BigOperators.Group.Finset.Basic
import Mathlib.Data.List.TakeWhile

/-!
# The projector refines the contract

Each daily series of an entry is that of the contract's storage after the day's
last block, and the fees of a day are what PostageStamp received in its blocks.
-/
namespace SwarmVolumes.Guarantees.Projection
open Library Source Source.Indexer Attribution Replay

/-! ## A stored chain -/

variable {T P : Type} {d : Source.Deployment T P} {w₀ w : World T P} {es : List (Entry T P)}
  {deploymentId : DeploymentId} {logs : List RawLog} {rows : List EventLogRow}

/-- What the projector reads of a run: the rows of its logs, stored in any order. -/
structure Stored (d : Source.Deployment T P) (w₀ : World T P) (es : List (Entry T P)) (w : World T P)
    (deploymentId : DeploymentId) (logs : List RawLog) (rows : List EventLogRow) : Prop where
  documented : d.Documented
  deployed : Deployed d w₀
  run : Run d ticks w₀ es w
  indexes : Indexes w logs
  stored : rows.Perm (logs.filterMap (rowOf d deploymentId))

/-- The log of the deployment, as the projector narrows it. -/
def eventsOf (deploymentId : DeploymentId) (rows : List EventLogRow) : EventLog :=
  (RowLog.fromRows rows).forDeployment deploymentId

/-- The logs up to a cutoff. -/
def logsUpTo (cutoff : Nat) (logs : List RawLog) : List RawLog :=
  before (fun log => log.record.time) cutoff logs

namespace Stored

theorem of_names (chain : Stored d w₀ es w deploymentId logs rows) {names : List String}
    (distinct : names.Nodup) :
    (eventsOf deploymentId rows).of names =
      (logs.filterMap (rowOf d deploymentId)).filter fun row => row.eventName ∈ names := by
  refine of_eq_filter distinct chain.stored (fun row member => ?_) (rows_ordered chain.indexes ?_)
  · obtain ⟨log, _, found⟩ := List.mem_filterMap.mp member
    exact (rowOf_place found).1
  · exact (run_log_order chain.deployed chain.run).imp fun notAfter => notAfter.imp id And.left

theorem named (chain : Stored d w₀ es w deploymentId logs rows) :
    ∀ log ∈ logs, ∀ e, log.record.event? = some e → Named e := by
  intro log member e announced
  refine (run_told chain.deployed chain.run).2.2 e ?_
  rw [World.events, ← chain.indexes.records]
  exact List.mem_filterMap.mpr ⟨log.record, List.mem_map_of_mem member, announced⟩

/-- Stopping at a cutoff leaves the rows of the logs up to it. -/
theorem upTo_rows (chain : Stored d w₀ es w deploymentId logs rows) (cutoff : Nat)
    (names : List String) :
    upTo cutoff ((logs.filterMap (rowOf d deploymentId)).filter fun row => row.eventName ∈ names) =
      ((logsUpTo cutoff logs).filterMap (rowOf d deploymentId)).filter
        fun row => row.eventName ∈ names := by
  have order := run_log_order chain.deployed chain.run
  rw [← chain.indexes.records, List.pairwise_map] at order
  have timed : (logs.filterMap (rowOf d deploymentId)).Pairwise fun a b => a.blockTs ≤ b.blockTs := by
    refine order.filterMap _ fun a b notAfter row first row' second => ?_
    rw [(rowOf_place first).2.2.1, (rowOf_place second).2.2.1]
    exact notAfter.timestamp
  have cut : before LogRow.blockTs cutoff (logs.filterMap (rowOf d deploymentId)) =
      (logsUpTo cutoff logs).filterMap (rowOf d deploymentId) :=
    before_filterMap (fun log row found => (rowOf_place found).2.2.1) cutoff
  unfold upTo
  rw [takeWhile_eq_before (timed.filter _), ← cut, before, List.filter_comm]
  rfl

/-- Up to a cutoff the log is that of the world the run was in. -/
theorem mid_records (chain : Stored d w₀ es w deploymentId logs rows) (cutoff : Nat) :
    ∃ mid, Run d ticks w₀ (before Entry.time cutoff es) mid ∧
      (logsUpTo cutoff logs).map RawLog.record = mid.logs ∧ mid.store = storeAt es cutoff := by
  obtain ⟨mid, run, records⟩ := run_before chain.deployed chain.run cutoff
  refine ⟨mid, run, ?_, run_store chain.deployed run⟩
  rw [records, ← chain.indexes.records]
  exact before_map RawLog.record cutoff

theorem named_upTo (chain : Stored d w₀ es w deploymentId logs rows) (cutoff : Nat) :
    ∀ log ∈ logsUpTo cutoff logs, ∀ e, log.record.event? = some e → Named e :=
  fun log member => chain.named log (List.mem_of_mem_filter member)

/-- What `_active_set_at` computes: a list of the active volumes with their depths. -/
theorem active_at (chain : Stored d w₀ es w deploymentId logs rows) (cutoff : Nat) :
    ∃ active, Mirrors active (storeAt es cutoff) ∧
      activeSetAt (eventsOf deploymentId rows) cutoff = .ok (spell active) := by
  obtain ⟨mid, run, records, store⟩ := chain.mid_records cutoff
  refine ⟨mid.events.foldl follow [], ?_, ?_⟩
  · rw [← store]
    exact (run_told chain.deployed run).1
  · rw [activeSetAt, chain.of_names (by decide), chain.upTo_rows,
      activeLoop (chain.named_upTo cutoff), records]
    rfl

/-- What `_authorized_at` computes: the number of authorized owners. -/
theorem authorized_at (chain : Stored d w₀ es w deploymentId logs rows) (cutoff : Nat) :
    authorizedAt (eventsOf deploymentId rows) cutoff =
      .ok (authorizedOwners (storeAt es cutoff)).card := by
  obtain ⟨mid, run, records, store⟩ := chain.mid_records cutoff
  rw [authorizedAt, chain.of_names (by decide), chain.upTo_rows,
    accountsLoop (chain.named_upTo cutoff), records, ok_bind, ← store,
    (run_told chain.deployed run).2.1,
    Finset.card_image_of_injective _ (hexValue_injective (by decide))]
  rfl

end Stored

/-! ## Stocks -/

/-- The depth is in the effective-capacity table. -/
def Tabled (depth : UInt8) : Prop := (effectiveBytesTable.get? depth.toNat).isSome = true

instance (depth : UInt8) : Decidable (Tabled depth) := inferInstanceAs (Decidable (_ = true))

/-- The capacity of a day that ends in storage `s`. -/
def capacityOf (s : Storage) (day : Nat) : DailyCapacity where
  date := day
  activeVolumes := (activeVolumes s).card
  nominalBytes := ∑ id ∈ activeVolumes s, 2 ^ (s.volumes id).depth.toNat * 4096
  effectiveBytes := ∑ id ∈ activeVolumes s,
    (effectiveBytesTable.get? (s.volumes id).depth.toNat).getD 0

/-- The accounts of a day that ends in storage `s`. -/
def accountsOf (s : Storage) (day : Nat) : DailyAccounts := ⟨day, (authorizedOwners s).card⟩

theorem mirrors_keys {active : Dict Bytes32 UInt8} {s : Storage} (mirrors : Mirrors active s) :
    active.keys.toFinset = activeVolumes s := by
  ext id
  rw [List.mem_toFinset, mirrors.mem_keys, activeVolumes, Finset.mem_filter]
  simp

theorem mirrors_card {active : Dict Bytes32 UInt8} {s : Storage} (mirrors : Mirrors active s) :
    (spell active).length = (activeVolumes s).card := by
  rw [← mirrors_keys mirrors, List.toFinset_card_of_nodup mirrors.distinct, spell, Dict.keys,
    List.length_map, List.length_map]

theorem mirrors_sum {active : Dict Bytes32 UInt8} {s : Storage} (mirrors : Mirrors active s)
    (f : UInt8 → Int) :
    (active.values.map f).sum = ∑ id ∈ activeVolumes s, f (s.volumes id).depth := by
  have read : active.values.map f = active.keys.map fun id => f (s.volumes id).depth := by
    rw [Dict.values, Dict.keys, List.map_map, List.map_map]
    refine List.map_congr_left fun entry member => ?_
    have depth := ((mirrors.listed entry.1 entry.2).mp member).2
    rw [Function.comp_apply, Function.comp_apply, depth]
  rw [read, ← mirrors_keys mirrors, List.sum_toFinset _ mirrors.distinct]

theorem sumOf_ok {f : Value → Except PyError Int} {g : UInt8 → Int} {depths : List UInt8}
    (each : ∀ depth ∈ depths, f (natValue depth.toNat) = .ok (g depth)) :
    sumOf f (depths.map fun depth => natValue depth.toNat) = .ok (depths.map g).sum := by
  have total : ∀ n, (depths.map fun depth => natValue depth.toNat).foldlM
      (fun total depth => do .ok (total + (← f depth))) n = .ok (n + (depths.map g).sum) := by
    induction depths with
    | nil => exact fun n => congrArg Except.ok (Int.add_zero n).symm
    | cons depth depths ih =>
      intro n
      have rest := ih fun depth' member => each depth' (List.mem_cons_of_mem _ member)
      rw [List.map_cons, List.foldlM_cons, each depth (List.mem_cons_self ..), ok_bind, ok_bind,
        rest, List.map_cons, List.sum_cons, Int.add_assoc]
  rw [sumOf, total, Int.zero_add]

theorem nominalBytes_ok (depth : UInt8) :
    nominalBytes (natValue depth.toNat) = .ok (2 ^ depth.toNat * 4096) := by
  simp [nominalBytes, natValue, chunkSizeBytes]

theorem effectiveBytes_ok {depth : UInt8} (tabled : Tabled depth) :
    effectiveBytes (natValue depth.toNat) = .ok ((effectiveBytesTable.get? depth.toNat).getD 0) := by
  obtain ⟨bytes, found⟩ := Option.isSome_iff_exists.mp tabled
  change orRaise .keyError (effectiveBytesTable.get? depth.toNat) = _
  rw [found]
  rfl

namespace Stored

theorem capacity_at (chain : Stored d w₀ es w deploymentId logs rows) {asOfTs day : Nat}
    (tabled : ∀ id, ((storeAt es (dayEnd day asOfTs)).volumes id).status = .active →
      Tabled ((storeAt es (dayEnd day asOfTs)).volumes id).depth) :
    capacityAt (eventsOf deploymentId rows) asOfTs day =
      .ok (capacityOf (storeAt es (dayEnd day asOfTs)) day) := by
  obtain ⟨active, mirrors, computed⟩ := chain.active_at (dayEnd day asOfTs)
  have depths : (spell active).values = active.values.map fun depth => natValue depth.toNat := by
    simp [spell, Dict.values]
  have known : ∀ depth ∈ active.values, Tabled depth := by
    intro depth member
    obtain ⟨⟨id, depth⟩, listed, rfl⟩ := List.mem_map.mp member
    obtain ⟨isActive, same⟩ := (mirrors.listed id depth).mp listed
    exact same ▸ tabled id isActive
  unfold capacityAt
  dsimp only
  rw [computed, ok_bind, depths, sumOf_ok fun depth _ => nominalBytes_ok depth, ok_bind,
    sumOf_ok fun depth member => effectiveBytes_ok (known depth member), ok_bind,
    mirrors_card mirrors, mirrors_sum mirrors, mirrors_sum mirrors]
  rfl

theorem accounts_at (chain : Stored d w₀ es w deploymentId logs rows) (asOfTs day : Nat) :
    accountsAt (eventsOf deploymentId rows) asOfTs day =
      .ok (accountsOf (storeAt es (dayEnd day asOfTs)) day) := by
  rw [accountsAt, chain.authorized_at]
  rfl

end Stored
/-! ## Series -/

theorem firstDayOf_spec (rows : List EventLogRow) (asOfTs : Nat) :
    (∀ row ∈ rows, row.blockTs ≤ asOfTs → firstDayOf rows asOfTs ≤ row.blockTs / oneDay) ∧
    (firstDayOf rows asOfTs = asOfTs / oneDay ∨
      ∃ row ∈ rows, row.blockTs ≤ asOfTs ∧ firstDayOf rows asOfTs = row.blockTs / oneDay) := by
  unfold firstDayOf
  dsimp only
  generalize same : (rows.filter fun r => r.blockTs ≤ asOfTs).map (fun r => r.blockTs / oneDay) = days
  have listed : ∀ row ∈ rows, row.blockTs ≤ asOfTs → row.blockTs / oneDay ∈ days := by
    intro row member early
    rw [← same]
    exact List.mem_map_of_mem (f := fun r : EventLogRow => r.blockTs / oneDay)
      (List.mem_filter.mpr ⟨member, by simpa using early⟩)
  cases least : days.min? with
  | none =>
    rw [List.min?_eq_none_iff] at least
    subst least
    exact ⟨fun row member early => absurd (listed row member early) (List.not_mem_nil),
      .inl rfl⟩
  | some first =>
    obtain ⟨member, below⟩ := List.min?_eq_some_iff.mp least
    refine ⟨fun row member early => below _ (listed row member early), .inr ?_⟩
    rw [← same] at member
    obtain ⟨row, kept, day⟩ := List.mem_map.mp member
    obtain ⟨member, early⟩ := List.mem_filter.mp kept
    exact ⟨row, member, by simpa using early, day.symm⟩

theorem firstDayOf_le (rows : List EventLogRow) (asOfTs : Nat) :
    firstDayOf rows asOfTs ≤ asOfTs / oneDay := by
  rcases (firstDayOf_spec rows asOfTs).2 with last | ⟨row, _, early, day⟩
  · exact last.le
  · rw [day]
    exact Nat.div_le_div_right early

theorem le_firstDayOf {rows : List EventLogRow} {genesisTs asOfTs : Nat}
    (after : ∀ row ∈ rows, genesisTs ≤ row.blockTs) (started : genesisTs ≤ asOfTs) :
    genesisTs / oneDay ≤ firstDayOf rows asOfTs := by
  rcases (firstDayOf_spec rows asOfTs).2 with last | ⟨row, member, _, day⟩
  · rw [last]
    exact Nat.div_le_div_right started
  · rw [day]
    exact Nat.div_le_div_right (after row member)

/-- A day before the first ends before every row. -/
theorem before_firstDay {rows : List EventLogRow} {asOfTs day : Nat}
    (early : day < firstDayOf rows asOfTs) : ∀ row ∈ rows, dayEnd day asOfTs < row.blockTs := by
  intro row member
  by_contra within
  have last := firstDayOf_le rows asOfTs
  have first := (firstDayOf_spec rows asOfTs).1 row member
  unfold dayEnd oneDay at *
  dsimp only at within
  split at within
  · omega
  · have inside : row.blockTs ≤ asOfTs := by omega
    have := first inside
    omega

/-- Padding a series to genesis extends its range, where the days before it are zero. -/
theorem padFront_range {α : Type} {date : α → Nat} {entry zero : Nat → α} {genesis first last : Nat}
    (dated : ∀ day, date (entry day) = day) (started : genesis ≤ first) (ended : first ≤ last)
    (idle : ∀ day < first, entry day = zero day) :
    padFront date ((dayRange first last).map entry) genesis zero =
      (dayRange genesis last).map entry := by
  obtain ⟨more, rfl⟩ := Nat.exists_eq_add_of_le ended
  have series : (dayRange first (first + more)).map entry =
      entry first :: (List.range' (first + 1) more).map entry := by
    rw [dayRange, show first + more + 1 - first = more + 1 by omega, List.range'_succ, List.map_cons]
  rw [series]
  unfold padFront
  dsimp only
  rw [dated]
  by_cases here : first ≤ genesis
  · obtain rfl : first = genesis := Nat.le_antisymm here started
    rw [if_pos here, series]
  · rw [if_neg here, ← series]
    have padded : (List.range' genesis (first - genesis)).map zero =
        (List.range' genesis (first - genesis)).map entry := by
      refine List.map_congr_left fun day member => (idle day ?_).symm
      have := List.mem_range'_1.mp member
      omega
    rw [padded, ← List.map_append, dayRange, dayRange]
    have joined : List.range' genesis (first - genesis) ++ List.range' first (first + more + 1 - first) =
        List.range' genesis (first - genesis + (first + more + 1 - first)) := by
      rw [← List.range'_append_1, Nat.add_sub_cancel' started]
    rw [joined]
    exact congrArg (fun n => (List.range' genesis n).map entry) (by omega)

/-- A walk without admissions leaves the active set empty. -/
theorem activeStep_quiet {rows : List EventLogRow} {active : Dict Value Value}
    (quiet : ∀ row ∈ rows, row.eventName ∉ admitEvents)
    (ok : rows.foldlM activeStep [] = .ok active) : active = [] := by
  induction rows with
  | nil => exact (Except.ok.inj ok).symm
  | cons row rows ih =>
    rw [List.foldlM_cons, activeStep, if_neg (quiet row (List.mem_cons_self ..))] at ok
    obtain ⟨next, popped, rest⟩ := bind_success ok
    obtain ⟨id, _, same⟩ := bind_success popped
    cases same
    exact ih (fun row' member => quiet row' (List.mem_cons_of_mem _ member)) rest

namespace Stored

theorem after_genesis (chain : Stored d w₀ es w deploymentId logs rows) {names : List String}
    (distinct : names.Nodup) :
    ∀ row ∈ (eventsOf deploymentId rows).of names, w₀.block.timestamp ≤ row.blockTs := by
  intro row member
  rw [chain.of_names distinct] at member
  obtain ⟨log, member, found⟩ := List.mem_filterMap.mp (List.mem_of_mem_filter member)
  have record : log.record ∈ w.logs := by
    rw [← chain.indexes.records]
    exact List.mem_map_of_mem member
  obtain ⟨logged, blocks⟩ := run_logs chain.deployed chain.run
  rw [logged] at record
  obtain ⟨e, entry, added⟩ := List.mem_flatMap.mp record
  rw [(rowOf_place found).2.2.1, blocks e entry _ added]
  exact ((run_blocks chain.run).2.1 e entry).1.timestamp

/-- Before the first admission no volume is active. -/
theorem inactive_before (chain : Stored d w₀ es w deploymentId logs rows) {asOfTs day : Nat}
    (early : day < firstDayOf ((eventsOf deploymentId rows).of admitEvents) asOfTs) :
    activeVolumes (storeAt es (dayEnd day asOfTs)) = ∅ := by
  obtain ⟨active, mirrors, computed⟩ := chain.active_at (dayEnd day asOfTs)
  have late := before_firstDay early
  have empty : spell active = [] := by
    refine activeStep_quiet (fun row member admits => ?_) computed
    have within : row.blockTs ≤ dayEnd day asOfTs := by
      simpa using List.mem_takeWhile_imp member
    have member := (List.takeWhile_subset _) member
    rw [chain.of_names (by decide)] at member
    refine absurd (late row ?_) (Nat.not_lt.mpr within)
    rw [chain.of_names (by decide)]
    exact List.mem_filter.mpr ⟨List.mem_of_mem_filter member, by simpa using admits⟩
  rw [← mirrors_keys mirrors, List.map_eq_nil_iff.mp empty]
  rfl

/-- Before the first account event no owner is authorized. -/
theorem unauthorized_before (chain : Stored d w₀ es w deploymentId logs rows) {asOfTs day : Nat}
    (early : day < firstDayOf ((eventsOf deploymentId rows).of accountEvents) asOfTs) :
    (authorizedOwners (storeAt es (dayEnd day asOfTs))).card = 0 := by
  have computed := chain.authorized_at (dayEnd day asOfTs)
  have empty : upTo (dayEnd day asOfTs) ((eventsOf deploymentId rows).of accountEvents) = [] := by
    refine List.eq_nil_iff_forall_not_mem.mpr fun row member => ?_
    have within : row.blockTs ≤ dayEnd day asOfTs := by
      simpa using List.mem_takeWhile_imp member
    exact Nat.not_lt.mpr within (before_firstDay early row (List.takeWhile_subset _ member))
  rw [authorizedAt, empty] at computed
  exact (Except.ok.inj computed).symm

theorem capacity_series (chain : Stored d w₀ es w deploymentId logs rows) {genesisTs asOfTs : Nat}
    (tabled : ∀ day ∈ dayRange (genesisTs / oneDay) (asOfTs / oneDay),
      ∀ id, ((storeAt es (dayEnd day asOfTs)).volumes id).status = .active →
        Tabled ((storeAt es (dayEnd day asOfTs)).volumes id).depth)
    (genesis : genesisTs ≤ w₀.block.timestamp) (started : genesisTs ≤ asOfTs) :
    ∃ series, capacityDaily (eventsOf deploymentId rows) asOfTs = .ok series ∧
      padFront DailyCapacity.date series (genesisTs / oneDay) (fun day => ⟨day, 0, 0, 0⟩) =
        (dayRange (genesisTs / oneDay) (asOfTs / oneDay)).map fun day =>
          capacityOf (storeAt es (dayEnd day asOfTs)) day := by
  have first : genesisTs / oneDay ≤
      firstDayOf ((eventsOf deploymentId rows).of admitEvents) asOfTs :=
    le_firstDayOf (fun row member => genesis.trans (chain.after_genesis (by decide) row member)) started
  refine ⟨_, mapM_ok fun day member => chain.capacity_at (tabled day ?_), ?_⟩
  · rw [mem_dayRange] at member ⊢
    exact ⟨first.trans member.1, member.2⟩
  refine padFront_range (fun day => rfl) first (firstDayOf_le ..) fun day early => ?_
  rw [capacityOf, chain.inactive_before early]
  rfl

theorem accounts_series (chain : Stored d w₀ es w deploymentId logs rows) {genesisTs asOfTs : Nat}
    (genesis : genesisTs ≤ w₀.block.timestamp) (started : genesisTs ≤ asOfTs) :
    ∃ series, accountsDaily (eventsOf deploymentId rows) asOfTs = .ok series ∧
      padFront DailyAccounts.date series (genesisTs / oneDay) (fun day => ⟨day, 0⟩) =
        (dayRange (genesisTs / oneDay) (asOfTs / oneDay)).map fun day =>
          accountsOf (storeAt es (dayEnd day asOfTs)) day := by
  refine ⟨_, mapM_ok fun day _ => chain.accounts_at asOfTs day, ?_⟩
  refine padFront_range (fun day => rfl) (le_firstDayOf (fun row member => ?_) started)
    (firstDayOf_le ..) fun day early => ?_
  · exact genesis.trans (chain.after_genesis (by decide) row member)
  · rw [accountsOf, chain.unauthorized_before early]

end Stored
/-! ## Flows -/

/-- The fees of a day, up to `asOfTs`. -/
def feeSum (asOfTs day : Nat) (fees : List (Nat × Nat)) : Nat :=
  ((fees.filter fun fee => fee.1 ≤ asOfTs ∧ fee.1 / oneDay = day).map Prod.snd).sum

/-- What the registry forwarded to PostageStamp on a day, up to `asOfTs`. -/
def feeOn (d : Source.Deployment T P) (es : List (Entry T P)) (asOfTs day : Nat) : Nat :=
  ((es.filter fun e => e.time ≤ asOfTs ∧ e.time / oneDay = day).map (Entry.received d)).sum

/-- What the loop has seen: each day's sum, and the first day with a fee. -/
structure Tallied (asOfTs : Nat) (fees : List (Nat × Nat)) (tally : FeeTally) : Prop where
  sums : ∀ day, (tally.perDay.get? day).getD 0 = feeSum asOfTs day fees
  bound : ∀ fee ∈ fees, fee.1 ≤ asOfTs → ∃ first, tally.firstDay = some first ∧ first ≤ fee.1 / oneDay
  attained : ∀ first, tally.firstDay = some first → ∃ fee ∈ fees, fee.1 ≤ asOfTs ∧ first = fee.1 / oneDay

theorem feeSum_append (asOfTs day : Nat) (fees more : List (Nat × Nat)) :
    feeSum asOfTs day (fees ++ more) = feeSum asOfTs day fees + feeSum asOfTs day more := by
  simp [feeSum]

theorem Tallied.step {asOfTs : Nat} {fees : List (Nat × Nat)} {tally : FeeTally}
    (tallied : Tallied asOfTs fees tally) (fee : Nat × Nat) :
    Tallied asOfTs (fees ++ [fee]) (tallyStep asOfTs tally fee) := by
  unfold tallyStep
  by_cases late : asOfTs < fee.1
  · rw [if_pos late]
    refine ⟨fun day => ?_, fun other member early => ?_, fun first found => ?_⟩
    · rw [tallied.sums, feeSum_append]
      simp [feeSum, Nat.not_le.mpr late]
    · rcases List.mem_append.mp member with before | last
      · exact tallied.bound other before early
      · rw [List.mem_singleton.mp last] at early
        exact absurd late (Nat.not_lt.mpr early)
    · obtain ⟨other, member, rest⟩ := tallied.attained first found
      exact ⟨other, List.mem_append_left _ member, rest⟩
  · rw [if_neg late]
    have early := Nat.not_lt.mp late
    refine ⟨fun day => ?_, fun other member before => ?_, fun first found => ?_⟩
    · rw [Dict.get?_update, feeSum_append]
      by_cases here : day = fee.1 / oneDay
      · subst here
        rw [if_pos rfl, Option.getD_some, tallied.sums]
        simp [feeSum, early]
      · rw [if_neg here, tallied.sums]
        simp [feeSum, Ne.symm here]
    · refine ⟨_, rfl, ?_⟩
      rcases List.mem_append.mp member with old | new
      · obtain ⟨first, found, below⟩ := tallied.bound other old before
        rw [found]
        exact (Nat.min_le_left ..).trans below
      · rw [List.mem_singleton.mp new]
        split
        · exact Nat.le_refl _
        · exact Nat.min_le_right ..
    · cases known : tally.firstDay with
      | none =>
        rw [known] at found
        exact ⟨fee, by simp, early, (Option.some.inj found).symm⟩
      | some old =>
        rw [known] at found
        obtain ⟨other, member, before, day⟩ := tallied.attained old known
        rcases Nat.le_total old (fee.1 / oneDay) with smaller | larger
        · refine ⟨other, List.mem_append_left _ member, before, ?_⟩
          exact (Option.some.inj found).symm.trans ((Nat.min_eq_left smaller).trans day)
        · refine ⟨fee, by simp, early, ?_⟩
          exact (Option.some.inj found).symm.trans (Nat.min_eq_right larger)

theorem tallied_fees (asOfTs : Nat) (fees : List (Nat × Nat)) :
    Tallied asOfTs fees (fees.foldl (tallyStep asOfTs) ⟨[], none⟩) := by
  induction fees using List.reverseRecOn with
  | nil => exact ⟨fun day => rfl, by simp, nofun⟩
  | append_singleton fees fee ih =>
    rw [List.foldl_append]
    exact ih.step fee

/-- The series of the tally, padded to genesis, is each day's sum. -/
theorem tally_series {fees : List (Nat × Nat)} {genesisTs asOfTs : Nat}
    (after : ∀ fee ∈ fees, genesisTs ≤ fee.1) (started : genesisTs ≤ asOfTs) :
    padFront DailyFee.date
      ((dayRange ((fees.foldl (tallyStep asOfTs) ⟨[], none⟩).firstDay.getD (asOfTs / oneDay))
        (asOfTs / oneDay)).map fun d =>
          ⟨d, (((fees.foldl (tallyStep asOfTs) ⟨[], none⟩).perDay.get? d).getD 0 : Int) / plurPerBzz⟩)
      (genesisTs / oneDay) (fun day => ⟨day, 0⟩) =
    (dayRange (genesisTs / oneDay) (asOfTs / oneDay)).map fun day =>
      ⟨day, (feeSum asOfTs day fees : Rat) / plurPerBzz⟩ := by
  have tallied := tallied_fees asOfTs fees
  generalize fees.foldl (tallyStep asOfTs) ⟨[], none⟩ = tally at *
  have series : ∀ day, (⟨day, ((tally.perDay.get? day).getD 0 : Int) / plurPerBzz⟩ : DailyFee) =
      ⟨day, (feeSum asOfTs day fees : Rat) / plurPerBzz⟩ := by
    intro day
    rw [tallied.sums, Int.cast_natCast]
  rw [List.map_congr_left fun day _ => series day]
  refine padFront_range (fun day => rfl) ?_ ?_ fun day early => ?_
  · cases known : tally.firstDay with
    | none => exact Nat.div_le_div_right started
    | some first =>
      obtain ⟨fee, member, _, rfl⟩ := tallied.attained first known
      exact Nat.div_le_div_right (after fee member)
  · cases known : tally.firstDay with
    | none => exact Nat.le_refl _
    | some first =>
      obtain ⟨fee, _, before, rfl⟩ := tallied.attained first known
      exact Nat.div_le_div_right before
  · have silent : feeSum asOfTs day fees = 0 := by
      rw [feeSum, List.filter_eq_nil_iff.mpr]
      · rfl
      · intro fee member counted
        obtain ⟨before, here⟩ := of_decide_eq_true counted
        obtain ⟨first, known, below⟩ := tallied.bound fee member before
        rw [known, Option.getD_some, ← here] at early
        exact Nat.not_le.mpr early below
    rw [silent]
    simp

/-- The fees a day's calls logged. -/
theorem feeSum_entries {asOfTs day : Nat} (stamped : ∀ e ∈ es, ∀ r ∈ e.added, r.block = e.block) :
    feeSum asOfTs day ((es.flatMap Entry.added).filterMap (feeOf d)) =
      ((es.filter fun e => e.time ≤ asOfTs ∧ e.time / oneDay = day).map
        fun e => d.forwarded e.added).sum := by
  induction es with
  | nil => rfl
  | cons e es ih =>
    have rest := ih fun e' member => stamped e' (List.mem_cons_of_mem _ member)
    have times : ∀ fee ∈ e.added.filterMap (feeOf d), fee.1 = e.time := by
      intro fee member
      obtain ⟨r, added, found⟩ := List.mem_filterMap.mp member
      obtain ⟨value, _, rfl⟩ := Option.map_eq_some_iff.mp found
      exact congrArg Block.timestamp (stamped e (List.mem_cons_self ..) r added)
    have values : ((e.added.filterMap (feeOf d)).map Prod.snd).sum = d.forwarded e.added := by
      rw [Deployment.forwarded, List.filterMap_filterMap, List.map_filterMap]
      refine congrArg List.sum (List.filterMap_congr fun r _ => ?_)
      simp [feeOf]
    rw [List.flatMap_cons, List.filterMap_append, feeSum_append, rest]
    by_cases counted : e.time ≤ asOfTs ∧ e.time / oneDay = day
    · have all : (e.added.filterMap (feeOf d)).filter
          (fun fee => fee.1 ≤ asOfTs ∧ fee.1 / oneDay = day) = e.added.filterMap (feeOf d) :=
        List.filter_eq_self.mpr fun fee member => by simpa [times fee member] using counted
      rw [List.filter_cons_of_pos (by simpa using counted), List.map_cons, List.sum_cons, feeSum, all,
        values]
    · have none : (e.added.filterMap (feeOf d)).filter
          (fun fee => fee.1 ≤ asOfTs ∧ fee.1 / oneDay = day) = [] :=
        List.filter_eq_nil_iff.mpr fun fee member => by simpa [times fee member] using counted
      rw [List.filter_cons_of_neg (by simpa using counted), feeSum, none]
      simp

namespace Stored

theorem fee_series (chain : Stored d w₀ es w deploymentId logs rows) {genesisTs asOfTs : Nat}
    (genesis : genesisTs ≤ w₀.block.timestamp) (started : genesisTs ≤ asOfTs) :
    ∃ series, feeVolumeDaily (eventsOf deploymentId rows) asOfTs = .ok series ∧
      padFront DailyFee.date series (genesisTs / oneDay) (fun day => ⟨day, 0⟩) =
        (dayRange (genesisTs / oneDay) (asOfTs / oneDay)).map fun day =>
          ⟨day, (feeOn d es asOfTs day : Rat) / plurPerBzz⟩ := by
  obtain ⟨logged, blocks⟩ := run_logs chain.deployed chain.run
  have sums : ∀ day, feeSum asOfTs day ((logs.map RawLog.record).filterMap (feeOf d)) =
      feeOn d es asOfTs day := by
    intro day
    rw [chain.indexes.records, logged, feeSum_entries blocks, feeOn]
    refine congrArg List.sum (List.map_congr_left fun e member => ?_)
    exact (run_received chain.documented chain.deployed chain.run e (List.mem_of_mem_filter member)).symm
  have after : ∀ fee ∈ (logs.map RawLog.record).filterMap (feeOf d), genesisTs ≤ fee.1 := by
    intro fee member
    obtain ⟨r, record, found⟩ := List.mem_filterMap.mp member
    obtain ⟨value, _, rfl⟩ := Option.map_eq_some_iff.mp found
    rw [chain.indexes.records, logged] at record
    obtain ⟨e, entry, added⟩ := List.mem_flatMap.mp record
    rw [Record.time, blocks e entry r added]
    exact genesis.trans ((run_blocks chain.run).2.1 e entry).1.timestamp
  unfold feeVolumeDaily
  rw [chain.of_names (by decide), feeLoop asOfTs chain.named, ok_bind]
  refine ⟨_, rfl, (tally_series after started).trans (List.map_congr_left fun day _ => ?_)⟩
  rw [sums]

end Stored

/-! ## Paying accounts -/

/-- The admission a record tells. -/
def admissionOf (r : Record) : Option Admission := r.event?.bind Event.admission

/-- The names of decoded registry events. -/
theorem mapEvent_name {e : Event} {name : String} {args : Dict String Value}
    (ok : mapEvent e = .ok (name, args)) :
    name ≠ "Transfer" ∧ (name ∈ paymentEvents ↔ e.paidFor.isSome = true) ∧
    (name ∈ ownerEvents ↔ e.admission.isSome = true) := by
  cases e with
  | volumeRetired id reason | topupSkipped id reason =>
    cases reason with
    | none => cases ok
    | _ =>
      cases ok
      simp [paymentEvents, Event.paidFor, ownerEvents, admitEvents, Event.admission]
  | _ =>
    cases ok
    simp [paymentEvents, Event.paidFor, ownerEvents, admitEvents, Event.admission]

/-- The arguments of those that are about payments or owners. -/
theorem mapEvent_reads {e : Event} {name : String} {args : Dict String Value}
    (ok : mapEvent e = .ok (name, args)) :
    (∀ id, e.paidFor = some id → args.get? "volume_id" = some (hexValue id)) ∧
    ∀ a, e.admission = some a → name ∈ admitEvents ∧
      args.get? "volume_id" = some (hexValue a.volumeId) ∧ args.get? "owner" = some (hexValue a.owner) := by
  cases e with
  | volumeCreated =>
    cases ok
    refine ⟨?_, ?_⟩
    · rintro _ ⟨⟩
      rfl
    · rintro _ ⟨⟩
      exact ⟨by decide, rfl, rfl⟩
  | volumeImported =>
    cases ok
    refine ⟨nofun, ?_⟩
    rintro _ ⟨⟩
    exact ⟨by decide, rfl, rfl⟩
  | toppedup =>
    cases ok
    refine ⟨?_, nofun⟩
    rintro _ ⟨⟩
    rfl
  | _ => exact ⟨nofun, nofun⟩

theorem rowOf_registry {e : Event} (same : log.record.log = .registry e) (named : Named e) :
    ∃ row, rowOf d deploymentId log = some row ∧ mapEvent e = .ok (row.eventName, row.args) ∧
      row.txHash = Hex.render log.record.tx := by
  obtain ⟨⟨name, args⟩, mapped⟩ := mapEvent_ok named
  unfold rowOf acquired decodeLog mapLog
  rw [same]
  dsimp only
  rw [mapped]
  exact ⟨_, rfl, rfl, rfl⟩

theorem row_ownership {row : EventLogRow} (found : rowOf d deploymentId log = some row)
    (named : ∀ e, log.record.event? = some e → Named e) :
    (row.eventName ∈ ownerEvents ↔ (admissionOf log.record).isSome = true) ∧
    ∀ a, admissionOf log.record = some a →
      ownership row = some (hexValue a.volumeId, hexValue a.owner) := by
  unfold admissionOf Record.event?
  cases same : log.record.log with
  | registry e =>
    obtain ⟨row', found', mapped, _⟩ := rowOf_registry (d := d) same (named e (by rw [Record.event?, same]))
    obtain rfl := Option.some.inj (found.symm.trans found')
    refine ⟨(mapEvent_name mapped).2.2, fun a announced => ?_⟩
    obtain ⟨admits, volumeId, owner⟩ := (mapEvent_reads mapped).2 a announced
    rw [ownership, if_pos admits, owner, volumeId]
    rfl
  | callee callee =>
    refine ⟨?_, by simp⟩
    have absent : "Transfer" ∉ ownerEvents := by decide
    have silent := found ▸ rowOf_callee absent same
    have unlisted : row.eventName ∉ ownerEvents := by
      intro listed
      rw [Option.filter_some_pos (by simpa using listed)] at silent
      cases silent
    simp [unlisted]

namespace Stored

theorem legible (chain : Stored d w₀ es w deploymentId logs rows) :
    Legible (eventsOf deploymentId rows) where
  owners row member := by
    rw [chain.of_names (by decide)] at member
    obtain ⟨listed, named⟩ := List.mem_filter.mp member
    obtain ⟨log, origin, found⟩ := List.mem_filterMap.mp listed
    obtain ⟨owns, reads⟩ := row_ownership found (chain.named log origin)
    obtain ⟨a, announced⟩ := Option.isSome_iff_exists.mp (owns.mp (of_decide_eq_true named))
    exact ⟨_, reads a announced⟩
  volumes row member other := by
    rw [chain.of_names (by decide)] at member
    obtain ⟨listed, named⟩ := List.mem_filter.mp member
    obtain ⟨log, origin, found⟩ := List.mem_filterMap.mp listed
    cases same : log.record.log with
    | registry e =>
      obtain ⟨row', found', mapped, _⟩ := rowOf_registry same
        (chain.named log origin e (by rw [Record.event?, same]))
      obtain rfl := Option.some.inj (found.symm.trans found')
      obtain ⟨id, paid⟩ := Option.isSome_iff_exists.mp
        ((mapEvent_name mapped).2.1.mp (of_decide_eq_true named))
      exact ⟨_, (mapEvent_reads mapped).1 id paid⟩
    | callee callee =>
      have absent : "Transfer" ∉ ["Toppedup", "VolumeCreated"] := by decide
      have silent := found ▸ rowOf_callee absent same
      have unlisted : row.eventName ∉ ["Toppedup", "VolumeCreated"] := by
        intro listed
        rw [Option.filter_some_pos (by simpa using listed)] at silent
        cases silent
      rcases List.mem_cons.mp (of_decide_eq_true named) with transfer | sibling
      · exact absurd transfer other
      · exact absurd sibling unlisted

end Stored
/-! ## The entry -/

/-- The days an entry reports: from genesis to `asOfTs`. -/
def reported (deployment : Indexer.Deployment) (asOfTs : Nat) : List Nat :=
  dayRange (deployment.genesisTs / oneDay) (asOfTs / oneDay)

/-- What an entry reports of a run: of each day the capacity and the accounts in
storage after its last block, and what it forwarded. -/
structure Reports (d : Source.Deployment T P) (es : List (Entry T P))
    (deployment : Indexer.Deployment) (asOfTs : Nat) (entry : ArtifactEntry) : Prop where
  capacity : entry.capacityDaily = (reported deployment asOfTs).map fun day =>
    capacityOf (storeAt es (dayEnd day asOfTs)) day
  accounts : entry.accountsDaily = (reported deployment asOfTs).map fun day =>
    accountsOf (storeAt es (dayEnd day asOfTs)) day
  fees : entry.feeVolumeDaily = (reported deployment asOfTs).map fun day =>
    ⟨day, (feeOn d es asOfTs day : Rat) / plurPerBzz⟩

theorem Stored.entry {deployment : Indexer.Deployment} {asOfTs : Nat}
    (chain : Stored d w₀ es w deployment.deploymentId logs rows)
    (genesis : deployment.genesisTs ≤ w₀.block.timestamp) (started : deployment.genesisTs ≤ asOfTs)
    (tabled : ∀ day ∈ reported deployment asOfTs,
      ∀ id, ((storeAt es (dayEnd day asOfTs)).volumes id).status = .active →
        Tabled ((storeAt es (dayEnd day asOfTs)).volumes id).depth)
    (priceDaily : List DailyPrice) (asOfBlock : Nat) :
    ∃ entry, projectEntry deployment (RowLog.fromRows rows) priceDaily asOfBlock asOfTs = .ok entry ∧
      Reports d es deployment asOfTs entry := by
  obtain ⟨fee, fees, feeSeries⟩ := chain.fee_series genesis started
  obtain ⟨cap, capacity, capSeries⟩ := chain.capacity_series tabled genesis started
  obtain ⟨acc, accounts, accSeries⟩ := chain.accounts_series genesis started
  obtain ⟨_, _, _, paid, payers, _⟩ := paidInWindow_ok chain.legible asOfTs paidInWindowDays
  have days : (reported deployment asOfTs) ≠ [] := by
    have ended : deployment.genesisTs / oneDay ≤ asOfTs / oneDay := Nat.div_le_div_right started
    exact List.ne_nil_of_mem (mem_dayRange.mpr ⟨Nat.le_refl _, ended⟩)
  have last : ∀ {α : Type} (f : Nat → α), ∃ a, ((reported deployment asOfTs).map f).getLast? = some a :=
    fun f => ⟨_, List.getLast?_eq_some_getLast (mt List.map_eq_nil_iff.mp days)⟩
  obtain ⟨lastCap, lastCapacity⟩ := last fun day => capacityOf (storeAt es (dayEnd day asOfTs)) day
  obtain ⟨lastAcc, lastAccounts⟩ := last fun day => accountsOf (storeAt es (dayEnd day asOfTs)) day
  unfold eventsOf at fees capacity accounts payers
  unfold reported at lastCapacity lastAccounts
  unfold projectEntry
  dsimp only
  rw [fees, ok_bind, capacity, ok_bind, accounts, ok_bind, payers, ok_bind, feeSeries, capSeries,
    accSeries, lastCapacity, lastAccounts]
  exact ⟨_, rfl, rfl, rfl, rfl⟩

theorem storeAt_cases (es : List (Entry T P)) (cutoff : Nat) :
    storeAt es cutoff = .empty ∨ ∃ e ∈ es, storeAt es cutoff = e.after.store := by
  unfold storeAt
  cases last : (before Entry.time cutoff es).getLast? with
  | none => exact .inl rfl
  | some e => exact .inr ⟨e, List.mem_of_mem_filter (List.mem_of_getLast? last), rfl⟩

theorem storeAt_tabled (tabled : ∀ e ∈ es, ∀ id, (e.after.store.volumes id).status = .active →
      Tabled (e.after.store.volumes id).depth) (cutoff : Nat) :
    ∀ id, ((storeAt es cutoff).volumes id).status = .active →
      Tabled ((storeAt es cutoff).volumes id).depth := by
  rcases storeAt_cases es cutoff with empty | ⟨e, member, same⟩
  · rw [empty]
    nofun
  · rw [same]
    exact tabled e member

/-- The projector, fed the decoded logs of a run in any order, reports the run's
storage day by day. -/
theorem projector_refines_contract (documented : d.Documented) (deployed : Deployed d w₀)
    (run : Run d ticks w₀ es w) (indexes : Indexes w logs)
    (tabled : ∀ e ∈ es, ∀ id, (e.after.store.volumes id).status = .active →
      Tabled (e.after.store.volumes id).depth)
    (deployment : Indexer.Deployment) (genesis : deployment.genesisTs ≤ w₀.block.timestamp)
    {asOfTs : Nat} (started : deployment.genesisTs ≤ asOfTs) (priceDaily : List DailyPrice)
    (asOfBlock : Nat) :
    ∃ decoded, decodeLogs d deployment.deploymentId logs = .ok decoded ∧
      ∀ rows, rows.Perm decoded → ∃ entry,
        projectEntry deployment (RowLog.fromRows rows) priceDaily asOfBlock asOfTs = .ok entry ∧
        Reports d es deployment asOfTs entry := by
  have decodable : Stored d w₀ es w (0, "") logs _ := ⟨documented, deployed, run, indexes, .refl _⟩
  have named := decodable.named
  refine ⟨_, decodeLogs_ok named, fun rows stored => ?_⟩
  have chain : Stored d w₀ es w deployment.deploymentId logs rows :=
    ⟨documented, deployed, run, indexes, stored⟩
  exact chain.entry genesis started (fun day _ => storeAt_tabled tabled _) priceDaily asOfBlock

/-- The deployment of the sample, as the indexer registers it. -/
def sampleDeployment : Indexer.Deployment where
  label := "sample"
  chainId := 100
  registry := Hex.render Sample.deployment.address
  registryVersion := "v2"
  genesisTs := 1000
  fiatCurrencies := []
  extra := []

theorem sample_depths :
    (Sample.final.events.filterMap Event.admission).map Admission.depth = [20, 18] := by
  decide

theorem sample_tabled : ∀ e ∈ Sample.entries, ∀ id, (e.after.store.volumes id).status = .active →
    Tabled (e.after.store.volumes id).depth := by
  intro e member id isActive
  obtain ⟨told, listed, a, announced, depth⟩ := active_announced Sample.deployed
    (Sample.run anything_refl) e member id isActive
  have known : a.depth ∈ ([20, 18] : List UInt8) := by
    rw [← sample_depths]
    exact List.mem_map_of_mem (List.mem_filterMap.mpr ⟨told, listed, announced⟩)
  have all : ∀ depth ∈ ([20, 18] : List UInt8), Tabled depth := by
    rw [List.forall_mem_cons, List.forall_mem_singleton]
    exact ⟨rfl, rfl⟩
  rw [← depth]
  exact all _ known

theorem projector_refines_contract_sample :
    ∃ decoded entry,
      decodeLogs Sample.deployment sampleDeployment.deploymentId (indexed Sample.final.logs) =
        .ok decoded ∧
      projectEntry sampleDeployment (RowLog.fromRows decoded) [] 100 1000 = .ok entry ∧
      Reports Sample.deployment Sample.entries sampleDeployment 1000 entry := by
  obtain ⟨decoded, decodes, projects⟩ := projector_refines_contract Sample.documented Sample.deployed
    (Sample.run fun _ => .inl rfl) (indexes_indexed _) sample_tabled sampleDeployment
    (Nat.le_refl 1000) (Nat.le_refl 1000) [] 100
  obtain ⟨entry, projected, reports⟩ := projects decoded (.refl _)
  exact ⟨decoded, entry, decodes, projected, reports⟩

end SwarmVolumes.Guarantees.Projection
