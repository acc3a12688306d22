import SwarmVolumes.Library.Fallible
import SwarmVolumes.Library.Hex
import SwarmVolumes.Source.Indexer.Model
import SwarmVolumes.Source.Registry.Runs

/-!
# Acquisition and decoding

The filter of `acquire.py` and `decode.py` for the registry version in the
repository: every event of the registry, and the BZZ `Transfer`s from it to
PostageStamp. A decoded row has the event's name, its arguments under their
`snake_case` keys with words as hexadecimal strings and enum values as their
names, and the log's place in the chain.
-/
namespace SwarmVolumes.Source.Indexer
open Library Hex

/-- `_V1_RETIRE_REASONS`; the unused `None = 0` has no name. -/
def retireReasons : RetireReason → Option String
  | .none => none
  | .ownerDeleted => some "OwnerDeleted"
  | .volumeExpired => some "VolumeExpired"
  | .batchDied => some "BatchDied"
  | .depthChanged => some "DepthChanged"
  | .batchOwnerMismatch => some "BatchOwnerMismatch"

/-- `_V2_RC4_SKIP_REASONS`. -/
def skipReasons : SkipReason → Option String
  | .none => none
  | .noAuth => some "NoAuth"
  | .paymentFailed => some "PaymentFailed"
  | .notFound => some "NotFound"
  | .notActive => some "NotActive"

def hexValue {bits : Nat} (word : BitVec bits) : Value := .str (render word)

def natValue (n : Nat) : Value := .int n

/-- The name and `args` of a registry event; an enum value without a name raises. -/
def mapEvent : Event → Except PyError (String × Dict String Value)
  | .volumeCreated volumeId owner batchId chunkSigner depth ttlExpiry =>
    .ok ("VolumeCreated", [("volume_id", hexValue volumeId), ("owner", hexValue owner),
      ("batch_id", hexValue batchId), ("chunk_signer", hexValue chunkSigner),
      ("depth", natValue depth.toNat), ("ttl_expiry", natValue ttlExpiry.toNat)])
  | .volumeImported volumeId owner batchId chunkSigner depth ttlExpiry normalisedBalance =>
    .ok ("VolumeImported", [("volume_id", hexValue volumeId), ("owner", hexValue owner),
      ("batch_id", hexValue batchId), ("chunk_signer", hexValue chunkSigner),
      ("depth", natValue depth.toNat), ("ttl_expiry", natValue ttlExpiry.toNat),
      ("normalised_balance", natValue normalisedBalance)])
  | .volumeRetired volumeId reason => do
    let name ← orRaise .keyError (retireReasons reason)
    .ok ("VolumeRetired", [("volume_id", hexValue volumeId), ("reason", .str name)])
  | .payerDesignated owner payer =>
    .ok ("PayerDesignated", [("owner", hexValue owner), ("payer", hexValue payer)])
  | .accountActivated owner payer =>
    .ok ("AccountActivated", [("owner", hexValue owner), ("payer", hexValue payer)])
  | .accountRevoked owner payer revoker =>
    .ok ("AccountRevoked", [("owner", hexValue owner), ("payer", hexValue payer),
      ("revoker", hexValue revoker)])
  | .toppedup volumeId amount newNormalisedBalance =>
    .ok ("Toppedup", [("volume_id", hexValue volumeId), ("amount", natValue amount),
      ("new_normalised_balance", natValue newNormalisedBalance)])
  | .topupSkipped volumeId reason => do
    let name ← orRaise .keyError (skipReasons reason)
    .ok ("TopupSkipped", [("volume_id", hexValue volumeId), ("reason", .str name)])

variable {T P : Type}

/-- A log as the node returns it. -/
structure RawLog where
  record : Record
  txIndex : Nat
  logIndex : Nat

/-- The acquisition filter: the registry leg, then the fee leg. -/
def acquired (d : Source.Deployment T P) (log : RawLog) : Bool :=
  match log.record.log with
  | .registry _ => true
  | .callee (.transfer src dst _) => src = d.address ∧ dst = d.postage
  | .callee (.other _) => false

/-- `decode_log`: emitter, name and `args` by the kind of log. -/
def mapLog (d : Source.Deployment T P) : Log → Except PyError (Address × String × Dict String Value)
  | .registry event => do
    let (name, args) ← mapEvent event
    .ok (d.address, name, args)
  | .callee (.transfer src dst value) =>
    .ok (d.bzz, "Transfer",
      [("from", hexValue src), ("to", hexValue dst), ("value", natValue value)])
  -- a topic the decoder does not know
  | .callee (.other _) => .error .keyError

def decodeLog (d : Source.Deployment T P) (deploymentId : DeploymentId) (log : RawLog) :
    Except PyError EventLogRow := do
  let (emitter, eventName, args) ← mapLog d log.record.log
  .ok
    { deploymentId
      blockNumber := log.record.block.number
      blockTs := log.record.block.timestamp
      txHash := render log.record.tx
      txIndex := log.txIndex
      logIndex := log.logIndex
      emitter := render emitter
      eventName
      args }

/-- The decoded rows of a node's logs. -/
def decodeLogs (d : Source.Deployment T P) (deploymentId : DeploymentId) (logs : List RawLog) :
    Except PyError (List EventLogRow) :=
  (logs.filter (acquired d)).mapM (decodeLog d deploymentId)

/-- A node's logs of a world: its records in order, with log indices that increase
within a block. -/
structure Indexes (w : World T P) (logs : List RawLog) : Prop where
  records : logs.map RawLog.record = w.logs
  indices : logs.Pairwise fun a b =>
    a.record.block.number = b.record.block.number → a.logIndex < b.logIndex

/-- A node that numbers its logs throughout. -/
def indexed (records : List Record) : List RawLog :=
  records.zipIdx.map fun (record, i) => ⟨record, 0, i⟩

theorem indexes_indexed (w : World T P) : Indexes w (indexed w.logs) where
  records := by
    rw [indexed, List.map_map]
    exact List.zipIdx_map_fst 0 w.logs
  indices := by
    rw [indexed, List.pairwise_map, List.pairwise_iff_getElem]
    intro i j _ _ before _
    simpa using before

/-! ## Decoding the logs of a run -/

/-- An event whose enum values have names. -/
def Named : Event → Prop
  | .volumeRetired _ reason => reason ≠ .none
  | .topupSkipped _ reason => reason ≠ .none
  | _ => True

/-- The row of a log that is acquired. -/
def rowOf (d : Source.Deployment T P) (deploymentId : DeploymentId) (log : RawLog) :
    Option EventLogRow :=
  if acquired d log then (decodeLog d deploymentId log).toOption else none

variable {d : Source.Deployment T P} {deploymentId : DeploymentId} {log : RawLog} {row : EventLogRow}

theorem mapEvent_ok {e : Event} (named : Named e) : ∃ mapped, mapEvent e = .ok mapped := by
  cases e with
  | volumeRetired volumeId reason =>
    cases reason with
    | none => exact absurd rfl named
    | _ => exact ⟨_, rfl⟩
  | topupSkipped volumeId reason =>
    cases reason with
    | none => exact absurd rfl named
    | _ => exact ⟨_, rfl⟩
  | _ => exact ⟨_, rfl⟩

theorem decodeLog_ok (acquires : acquired d log = true)
    (named : ∀ e, log.record.event? = some e → Named e) :
    ∃ row, decodeLog d deploymentId log = .ok row := by
  unfold decodeLog mapLog
  unfold acquired at acquires
  cases same : log.record.log with
  | registry event =>
    obtain ⟨mapped, ok⟩ := mapEvent_ok (named event (by rw [Record.event?, same]))
    dsimp only
    rw [ok]
    exact ⟨_, rfl⟩
  | callee callee =>
    cases callee with
    | transfer src dst value => exact ⟨_, rfl⟩
    | other emitter =>
      rw [same] at acquires
      cases acquires

/-- Decoding succeeds on every log whose enum values have names. -/
theorem decodeLogs_ok {logs : List RawLog}
    (named : ∀ log ∈ logs, ∀ e, log.record.event? = some e → Named e) :
    decodeLogs d deploymentId logs = .ok (logs.filterMap (rowOf d deploymentId)) := by
  unfold decodeLogs
  induction logs with
  | nil => rfl
  | cons log logs ih =>
    have rest := ih fun log' member => named log' (List.mem_cons_of_mem _ member)
    cases acquires : acquired d log with
    | false =>
      rw [List.filter_cons_of_neg (by simp [acquires]), rest]
      simp [rowOf, acquires]
    | true =>
      obtain ⟨row, decoded⟩ : ∃ row, decodeLog d deploymentId log = .ok row :=
        decodeLog_ok acquires (named log (List.mem_cons_self ..))
      rw [List.filter_cons_of_pos acquires, List.mapM_cons, decoded, ok_bind, rest, ok_bind]
      simp [rowOf, acquires, decoded, Except.toOption]
      rfl

/-- A row keeps its log's place and its deployment. -/
theorem rowOf_place (found : rowOf d deploymentId log = some row) :
    row.deploymentId = deploymentId ∧ row.blockNumber = log.record.block.number ∧
    row.blockTs = log.record.block.timestamp ∧ row.logIndex = log.logIndex := by
  unfold rowOf at found
  split at found
  · cases decoded : decodeLog d deploymentId log with
    | error e =>
      rw [decoded] at found
      cases found
    | ok row' =>
      obtain ⟨mapped, _, ok⟩ := bind_success decoded
      rw [decoded] at found
      cases found
      cases ok
      exact ⟨rfl, rfl, rfl, rfl⟩
  · cases found

/-- The one log of a callee that is acquired is a transfer. -/
theorem rowOf_callee {callee : CalleeLog} {names : List String} (absent : "Transfer" ∉ names)
    (same : log.record.log = .callee callee) :
    (rowOf d deploymentId log).filter (fun row => row.eventName ∈ names) = none := by
  unfold rowOf acquired decodeLog mapLog
  rw [same]
  cases callee with
  | transfer src dst value =>
    by_cases forwarded : src = d.address ∧ dst = d.postage
    · simp [forwarded, Except.toOption, absent]
    · simp [forwarded]
  | other emitter => rfl

/-- The rows of a world's logs are in chain order when its blocks are. -/
theorem rows_ordered {w : World T P} {logs : List RawLog} (indexes : Indexes w logs)
    (blocks : w.logs.Pairwise fun a b => a.block = b.block ∨ a.block.number < b.block.number) :
    (logs.filterMap (rowOf d deploymentId)).Pairwise Precedes := by
  rw [← indexes.records, List.pairwise_map] at blocks
  refine (blocks.and indexes.indices).filterMap _ ?_
  rintro a b ⟨notAfter, indices⟩ row first row' second
  obtain ⟨_, number, _, index⟩ := rowOf_place first
  obtain ⟨_, number', _, index'⟩ := rowOf_place second
  rw [Precedes, number, number', index, index']
  rcases notAfter with same | earlier
  · exact .inr ⟨congrArg Block.number same, indices (congrArg Block.number same)⟩
  · exact .inl earlier

/-- The rule for a loop over rows: what its body does to the row of a log is what
`abs` does to what the record holds. -/
theorem foldlM_rows {σ τ ε : Type*} (step : τ → EventLogRow → Except PyError τ) (spell : σ → τ)
    (pick : Record → Option ε) (abs : σ → ε → σ) (names : List String)
    (body : ∀ s log, (∀ e, log.record.event? = some e → Named e) →
      match (rowOf d deploymentId log).filter fun row => row.eventName ∈ names with
      | some row => ∃ x, pick log.record = some x ∧ step (spell s) row = .ok (spell (abs s x))
      | none => ∀ x, pick log.record = some x → abs s x = s)
    {logs : List RawLog} (named : ∀ log ∈ logs, ∀ e, log.record.event? = some e → Named e) (s : σ) :
    ((logs.filterMap (rowOf d deploymentId)).filter fun row => row.eventName ∈ names).foldlM step
      (spell s) = .ok (spell (((logs.map RawLog.record).filterMap pick).foldl abs s)) := by
  induction logs generalizing s with
  | nil => rfl
  | cons log logs ih =>
    have here := body s log (named log (List.mem_cons_self ..))
    have ih := ih fun log' member => named log' (List.mem_cons_of_mem _ member)
    rw [List.map_cons, List.filterMap_cons, List.filterMap_cons]
    cases found : rowOf d deploymentId log with
    | none =>
      rw [found] at here
      cases picked : pick log.record with
      | none => exact ih s
      | some x =>
        rw [List.foldl_cons, here x picked]
        exact ih s
    | some row =>
      rw [found] at here
      by_cases named : row.eventName ∈ names
      · rw [Option.filter_some_pos (by simpa using named)] at here
        obtain ⟨x, picked, stepped⟩ := here
        rw [List.filter_cons_of_pos (by simpa using named), List.foldlM_cons, stepped, ok_bind,
          picked]
        exact ih _
      · rw [Option.filter_some_neg (by simpa using named)] at here
        rw [List.filter_cons_of_neg (by simpa using named)]
        cases picked : pick log.record with
        | none => exact ih s
        | some x =>
          rw [List.foldl_cons, here x picked]
          exact ih s

end SwarmVolumes.Source.Indexer
