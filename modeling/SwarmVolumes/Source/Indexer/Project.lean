import SwarmVolumes.Source.Indexer.Model
import Mathlib.Algebra.Field.Rat
import Mathlib.Data.Finset.Card

/-!
# Projector

`project.py` and `capacity.py`: event log rows to the artifact entry. Each `for`
loop is a fold of its body, one that stops at a cutoff the fold of the rows
before it; an exception is an error.
-/
namespace SwarmVolumes.Source.Indexer
open Library

/-- `PAID_IN_WINDOW_DAYS`. -/
def paidInWindowDays : List Nat := [1, 7, 30]

/-- `ONE_DAY`. -/
def oneDay : Nat := 86400

/-- `ADMIT_EVENTS`. -/
def admitEvents : List String := ["VolumeCreated", "VolumeImported"]

/-- `PLUR_PER_BZZ`. -/
def plurPerBzz : Nat := 10 ^ 16

/-! ## Capacity reference data -/

/-- `CHUNK_SIZE_BYTES`. -/
def chunkSizeBytes : Int := 4096

/-- `(1 << depth) * CHUNK_SIZE_BYTES`; a negative shift raises. -/
def nominalBytes : Value → Except PyError Int
  | .str _ => .error .typeError
  | .int depth => if depth < 0 then .error .valueError else .ok (2 ^ depth.toNat * chunkSizeBytes)

/-- `EFFECTIVE_BYTES`. -/
def effectiveBytesTable : Dict Int Int :=
  [(17, 44700), (18, 6660000), (19, 112060000), (20, 687620000), (21, 2600000000),
    (22, 7730000000), (23, 19940000000), (24, 47060000000), (25, 105510000000),
    (26, 227980000000), (27, 476680000000), (28, 993650000000), (29, 2040000000000),
    (30, 4170000000000), (31, 8450000000000), (32, 17070000000000), (33, 34360000000000),
    (34, 69040000000000), (35, 138540000000000), (36, 277720000000000), (37, 556350000000000),
    (38, 1110000000000000), (39, 2230000000000000), (40, 4460000000000000),
    (41, 8930000000000000)]

def effectiveBytes : Value → Except PyError Int
  | .str _ => .error .keyError
  | .int depth => orRaise .keyError (effectiveBytesTable.get? depth)

/-! ## Daily series -/

/-- The inclusive right edge of UTC day `dayIndex`. -/
def dayEnd (dayIndex asOfTs : Nat) : Nat :=
  let asOfDay := asOfTs / oneDay
  if dayIndex = asOfDay then asOfTs else (dayIndex + 1) * oneDay - 1

/-- `range(first, last + 1)`. -/
def dayRange (first last : Nat) : List Nat := List.range' first (last + 1 - first)

@[simp] theorem mem_dayRange {first last day : Nat} :
    day ∈ dayRange first last ↔ first ≤ day ∧ day ≤ last := by
  rw [dayRange, List.mem_range'_1]
  omega

/-- `per_day` and `first_day`. -/
structure FeeTally where
  perDay : Dict Nat Int
  firstDay : Option Nat

/-- A row past `asOfTs` is passed over; the loop goes on. -/
def feeStep (asOfTs : Nat) (tally : FeeTally) (row : EventLogRow) : Except PyError FeeTally :=
  let ts := row.blockTs
  if asOfTs < ts then .ok tally
  else do
    let day := ts / oneDay
    let value ← row.arg "value"
    let value ← value.operand
    .ok ⟨tally.perDay.update day fun total => total.getD 0 + value,
      some (match tally.firstDay with | none => day | some first => min first day)⟩

def feeVolumeDaily (events : EventLog) (asOfTs : Nat) : Except PyError (List DailyFee) := do
  let asOfDay := asOfTs / oneDay
  let tally ← (events.of ["Transfer"]).foldlM (feeStep asOfTs) ⟨[], none⟩
  let firstDay := tally.firstDay.getD asOfDay
  .ok ((dayRange firstDay asOfDay).map fun d =>
    ⟨d, ((tally.perDay.get? d).getD 0 : Int) / plurPerBzz⟩)

/-- An admit sets the volume's depth, any retire reason removes the volume. -/
def activeStep (active : Dict Value Value) (row : EventLogRow) : Except PyError (Dict Value Value) :=
  if row.eventName ∈ admitEvents then do
    let depth ← row.arg "depth"
    let volumeId ← row.arg "volume_id"
    .ok (active.set volumeId depth)
  else do
    let volumeId ← row.arg "volume_id"
    .ok (active.pop volumeId)

/-- The rows a loop sees that breaks at the first one past the cutoff. -/
def upTo (cutoffTs : Nat) (rows : List EventLogRow) : List EventLogRow :=
  rows.takeWhile fun row => row.blockTs ≤ cutoffTs

/-- The active volumes and their depths as of `cutoffTs`. -/
def activeSetAt (events : EventLog) (cutoffTs : Nat) : Except PyError (Dict Value Value) :=
  (upTo cutoffTs (events.of (admitEvents ++ ["VolumeRetired"]))).foldlM activeStep []

/-- `sum(f(d) for d in depths)`. -/
def sumOf (f : Value → Except PyError Int) (depths : List Value) : Except PyError Int :=
  depths.foldlM (fun total depth => do .ok (total + (← f depth))) 0

/-- One turn of the loop of `capacity_daily`. -/
def capacityAt (events : EventLog) (asOfTs day : Nat) : Except PyError DailyCapacity := do
  let active ← activeSetAt events (dayEnd day asOfTs)
  let depths := active.values
  let nominal ← sumOf nominalBytes depths
  let effective ← sumOf effectiveBytes depths
  .ok ⟨day, active.length, nominal, effective⟩

/-- The day of the first of these rows at or before `asOfTs`, else that of `asOfTs`. -/
def firstDayOf (rows : List EventLogRow) (asOfTs : Nat) : Nat :=
  let days := (rows.filter fun r => r.blockTs ≤ asOfTs).map fun r => r.blockTs / oneDay
  days.min?.getD (asOfTs / oneDay)

def capacityDaily (events : EventLog) (asOfTs : Nat) : Except PyError (List DailyCapacity) :=
  (dayRange (firstDayOf (events.of admitEvents) asOfTs) (asOfTs / oneDay)).mapM
    (capacityAt events asOfTs)

def authorizedStep (active : Finset Value) (row : EventLogRow) : Except PyError (Finset Value) :=
  if row.eventName = "AccountActivated" then do
    let owner ← row.arg "owner"
    .ok (insert owner active)
  else do
    let owner ← row.arg "owner"
    .ok (active.erase owner)

def accountEvents : List String := ["AccountActivated", "AccountRevoked"]

/-- The number of currently authorized owners as of `cutoffTs`. -/
def authorizedAt (events : EventLog) (cutoffTs : Nat) : Except PyError Nat := do
  let active ← (upTo cutoffTs (events.of accountEvents)).foldlM authorizedStep ∅
  .ok active.card

def accountsAt (events : EventLog) (asOfTs day : Nat) : Except PyError DailyAccounts := do
  let authorized ← authorizedAt events (dayEnd day asOfTs)
  .ok ⟨day, authorized⟩

def accountsDaily (events : EventLog) (asOfTs : Nat) : Except PyError (List DailyAccounts) :=
  (dayRange (firstDayOf (events.of accountEvents) asOfTs) (asOfTs / oneDay)).mapM
    (accountsAt events asOfTs)

/-! ## Paying accounts -/

def timelineStep (timeline : Dict Value (List (Nat × Value))) (row : EventLogRow) :
    Except PyError (Dict Value (List (Nat × Value))) := do
  let owner ← if row.eventName ∈ admitEvents then row.arg "owner" else row.arg "to"
  let volumeId ← row.arg "volume_id"
  .ok (timeline.push volumeId (row.blockNumber, owner))

/-- Each volume's owners with the block they became it, in chain order. -/
def ownerTimeline (events : EventLog) : Except PyError (Dict Value (List (Nat × Value))) :=
  (events.of (admitEvents ++ ["VolumeOwnershipTransferred"])).foldlM timelineStep []

/-- The last owner up to `block`. -/
def ownerAt (timeline : Dict Value (List (Nat × Value))) (volumeId : Value) (block : Nat) :
    Option Value :=
  (((timeline.get? volumeId).getD []).takeWhile fun entry => entry.1 ≤ block).getLast?.map Prod.snd

/-- `payment -> (ts, volume_id, block_number)`. -/
def paymentOf (pair : EventLogRow × EventLogRow) : Except PyError (Nat × Value × Nat) := do
  let volumeId ← pair.2.arg "volume_id"
  .ok (pair.1.blockTs, volumeId, pair.1.blockNumber)

/-- Each `Transfer` of a transaction with its `Toppedup` or `VolumeCreated`, in log
order; `zip` drops what is left over. -/
def paymentPairs (events : EventLog) : List (EventLogRow × EventLogRow) :=
  let rows := events.of ["Transfer", "Toppedup", "VolumeCreated"]
  let byTxTransfers := Dict.group LogRow.txHash (rows.filter fun r => r.eventName = "Transfer")
  let byTxSiblings := Dict.group LogRow.txHash (rows.filter fun r => r.eventName ≠ "Transfer")
  byTxTransfers.flatMap fun (txHash, transfers) =>
    transfers.zip ((byTxSiblings.get? txHash).getD [])

def paidInWindow (events : EventLog) (asOfTs : Nat) (windows : List Nat) :
    Except PyError (Dict String Nat) := do
  let timeline ← ownerTimeline events
  let payments ← (paymentPairs events).mapM paymentOf
  .ok (windows.foldl (fun result n =>
    let lo : Int := asOfTs - n * oneDay
    let owners := payments.filterMap fun (ts, volumeId, block) =>
      if lo ≤ ts ∧ ts ≤ asOfTs then ownerAt timeline volumeId block else none
    result.set (toString n ++ "d") owners.toFinset.card) [])

/-! ## The entry -/

/-- Left-pads a series with zero days from `genesisDay`. -/
def padFront {α : Type} (date : α → Nat) (series : List α) (genesisDay : Nat) (makeZero : Nat → α) :
    List α :=
  match series with
  | [] => []
  | first :: _ =>
    if date first ≤ genesisDay then series
    else (List.range' genesisDay (date first - genesisDay)).map makeZero ++ series

def projectEntry (deployment : Deployment) (events : EventLog) (priceDaily : List DailyPrice)
    (asOfBlock asOfTs : Nat) : Except PyError ArtifactEntry := do
  let ev := events.forDeployment deployment.deploymentId
  let fee ← feeVolumeDaily ev asOfTs
  let cap ← capacityDaily ev asOfTs
  let acc ← accountsDaily ev asOfTs
  let piw ← paidInWindow ev asOfTs paidInWindowDays
  let genesisDay := deployment.genesisTs / oneDay
  let fee := padFront DailyFee.date fee genesisDay fun d => ⟨d, 0⟩
  let cap := padFront DailyCapacity.date cap genesisDay fun d => ⟨d, 0, 0, 0⟩
  let acc := padFront DailyAccounts.date acc genesisDay fun d => ⟨d, 0⟩
  let lastCap ← orRaise .indexError cap.getLast?
  let lastAcc ← orRaise .indexError acc.getLast?
  .ok
    { label := deployment.label
      chainId := deployment.chainId
      registry := deployment.registry
      registryVersion := deployment.registryVersion
      genesisTs := deployment.genesisTs
      asOf := ⟨asOfBlock, asOfTs⟩
      fiatCurrencies := deployment.fiatCurrencies
      extra := deployment.extra
      snapshot :=
        { feeVolumeTotalBzz := (fee.map DailyFee.bzz).sum
          capacity := ⟨lastCap.activeVolumes, lastCap.nominalBytes, lastCap.effectiveBytes⟩
          accounts := ⟨lastAcc.authorized, piw⟩ }
      feeVolumeDaily := fee
      capacityDaily := cap
      accountsDaily := acc
      priceDaily }

/-- The projector reads a log through `of` only. -/
theorem projectEntry_congr {deployment : Deployment} {events events' : EventLog}
    {priceDaily : List DailyPrice} {asOfBlock asOfTs : Nat}
    (same : ∀ names : List String, names.Nodup →
      (events.forDeployment deployment.deploymentId).of names =
        (events'.forDeployment deployment.deploymentId).of names) :
    projectEntry deployment events priceDaily asOfBlock asOfTs =
      projectEntry deployment events' priceDaily asOfBlock asOfTs := by
  have transfers := same ["Transfer"] (by decide)
  have admits := same admitEvents (by decide)
  have retires := same (admitEvents ++ ["VolumeRetired"]) (by decide)
  have accounts := same accountEvents (by decide)
  have owners := same (admitEvents ++ ["VolumeOwnershipTransferred"]) (by decide)
  have payments := same ["Transfer", "Toppedup", "VolumeCreated"] (by decide)
  have cap : ∀ day, capacityAt (events.forDeployment deployment.deploymentId) asOfTs day =
      capacityAt (events'.forDeployment deployment.deploymentId) asOfTs day := by
    intro day
    rw [capacityAt, capacityAt, activeSetAt, activeSetAt, retires]
  have acc : ∀ day, accountsAt (events.forDeployment deployment.deploymentId) asOfTs day =
      accountsAt (events'.forDeployment deployment.deploymentId) asOfTs day := by
    intro day
    rw [accountsAt, accountsAt, authorizedAt, authorizedAt, accounts]
  simp only [projectEntry, feeVolumeDaily, capacityDaily, accountsDaily, paidInWindow,
    ownerTimeline, paymentPairs, transfers, admits, accounts, owners, payments, funext cap,
    funext acc]

end SwarmVolumes.Source.Indexer
