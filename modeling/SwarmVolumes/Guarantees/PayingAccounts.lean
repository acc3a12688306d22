import SwarmVolumes.Guarantees.Projection

/-!
# Paying accounts

Every payment of the registry logs its transfer to PostageStamp and then the event
that names the volume, so a transaction's transfers and events pair up by position
whatever it calls. With owners that never change, `paid_in_window` counts exactly
the owners whose volumes paid.
-/
namespace SwarmVolumes.Guarantees.PayingAccounts
open Library Source Source.Indexer Attribution Projection Replay

variable {T P : Type} {d : Source.Deployment T P} {msg : Msg} {w w' x x' : World T P} {id : Bytes32}

/-- A transfer to PostageStamp for a volume of `owner`. -/
structure Payment where
  volumeId : Bytes32
  owner : Address
  amount : Nat
  deriving DecidableEq, Repr

def stepPayment (d : Source.Deployment T P) (step : TriggerStep T P) : Option Payment :=
  (step.charge d).map fun charge => ⟨step.volumeId, charge.owner, charge.amount⟩

/-- The payments of a call, in the order it makes them. -/
def callPayments (d : Source.Deployment T P) (e : Entry T P) : List Payment :=
  match e.result with
  | .error _ => []
  | .ok (value, _) =>
    match e.call, value with
    | .createVolume _ depth _ _ _, some volumeId =>
      [⟨volumeId, e.msg.sender, d.target e.before.postage * 2 ^ depth.toNat⟩]
    | call, _ => (call.steps d e.msg e.before).filterMap (stepPayment d)

/-! ## What a payment logs -/

/-- A transfer to PostageStamp, or the volume an event says was paid for. -/
inductive Mark where
  | fee (amount : Nat)
  | volume (volumeId : Bytes32)
  deriving DecidableEq, Repr

def mark (d : Source.Deployment T P) (r : Record) : Option Mark :=
  match r.log with
  | .registry e => e.paidFor.map .volume
  | .callee log => (log.transfer?.bind d.toPostage).map .fee

def Payment.marks (p : Payment) : List Mark := [.fee p.amount, .volume p.volumeId]

/-- `w'` logs `marks` on top of `w`, in its block and for the transaction of `msg`. -/
structure Adds (d : Source.Deployment T P) (msg : Msg) (w w' : World T P) (marks : List Mark) :
    Prop where
  block : w'.block = w.block
  logs : ∃ more, w'.logs = w.logs ++ more ∧ (∀ r ∈ more, r.block = w.block ∧ r.tx = msg.tx) ∧
    more.filterMap (mark d) = marks

namespace Adds

theorem refl (w : World T P) : Adds d msg w w [] := ⟨rfl, [], (List.append_nil _).symm, by simp, rfl⟩

theorem trans {first second : List Mark} (one : Adds d msg w x first) (two : Adds d msg x w' second) :
    Adds d msg w w' (first ++ second) := by
  obtain ⟨block, more, grown, here, told⟩ := one
  obtain ⟨block', rest, further, there, told'⟩ := two
  refine ⟨block'.trans block, more ++ rest, ?_, fun r member => ?_, ?_⟩
  · rw [further, grown, List.append_assoc]
  · rcases List.mem_append.mp member with early | late
    · exact here r early
    · exact ⟨(there r late).1.trans block, (there r late).2⟩
  · rw [List.filterMap_append, told, told']

theorem emit (same : x.logs = w.logs) (block : x.block = w.block) (e : Event) :
    Adds d msg w (x.emit msg e) (e.paidFor.map Mark.volume).toList := by
  refine ⟨block, _, congrArg (· ++ _) same, by simp [block], ?_⟩
  cases paid : e.paidFor with
  | none => simp [mark, paid]
  | some volumeId => simp [mark, paid]

theorem absorb (same : x.logs = w.logs) (block : x.block = w.block) (logs : List CalleeLog) :
    Adds d msg w (x.absorb msg logs)
      (((logs.filterMap CalleeLog.transfer?).filterMap d.toPostage).map Mark.fee) := by
  refine ⟨block, _, congrArg (· ++ _) same, by simp [block], ?_⟩
  rw [List.filterMap_map, List.filterMap_filterMap, List.map_filterMap]
  rfl

end Adds

theorem pull_adds (documented : d.Documented) {payer : Address} {amount : Nat}
    (pulled : pull d msg w payer amount = .ok w') : Adds d msg w w' [] := by
  obtain ⟨bzz, logs, called, rfl⟩ := pull_success pulled
  have absorbed := @Adds.absorb T P d msg w { w with bzz } rfl rfl logs
  rw [documented.token.transferFrom_logs called] at absorbed
  simpa [Deployment.toPostage, documented.apart] using absorbed

theorem approve_adds (documented : d.Documented) {amount : Nat}
    (approved : approve d msg w amount = .ok w') : Adds d msg w w' [] := by
  obtain ⟨bzz, logs, called, rfl⟩ := approve_success approved
  have absorbed := @Adds.absorb T P d msg w { w with bzz } rfl rfl logs
  rwa [documented.token.approve_logs called] at absorbed

theorem topUp_adds (documented : d.Documented) {batchId : Bytes32} {deficit : Nat}
    (topped : topUp d msg w batchId deficit = .ok w') :
    Adds d msg w w' [.fee (batchCost deficit (d.stamp.batches w.postage batchId).depth)] := by
  obtain ⟨reply, called, rfl⟩ := topUp_success topped
  obtain ⟨_, logs, forwarded, logged⟩ := documented.stamp.topUp_pulls called
  have absorbed := @Adds.absorb T P d msg w { w with bzz := reply.bzz, postage := reply.postage } rfl
    rfl reply.logs
  rw [logged, documented.token.transferFrom_logs forwarded] at absorbed
  simpa [Deployment.toPostage] using absorbed

theorem createBatch_adds (documented : d.Documented) {chunkSigner : Address} {perChunk : Nat}
    {depth bucketDepth : UInt8} {immutableBatch : Bool} {batchId : Bytes32}
    (made : createBatch d msg w chunkSigner perChunk depth bucketDepth immutableBatch =
      .ok (batchId, w')) : Adds d msg w w' [.fee (batchCost perChunk depth)] := by
  obtain ⟨reply, called, rfl⟩ := createBatch_success made
  obtain ⟨_, logs, forwarded, logged⟩ := documented.stamp.createBatch_pulls called
  have absorbed := @Adds.absorb T P d msg w
    { w with
      store := { w.store with nextNonce := w.store.nextNonce + 1 }
      bzz := reply.bzz
      postage := reply.postage } rfl rfl reply.logs
  rw [logged, documented.token.transferFrom_logs forwarded] at absorbed
  simpa [Deployment.toPostage] using absorbed

/-- No other effect pays. -/
theorem Effect.adds_nothing {e : Event} (effect : Effect d msg w e w') (unpaid : e.paidFor = none) :
    Adds d msg w w' [] := by
  have silent : ∀ {x : World T P}, x.logs = w.logs → x.block = w.block →
      Adds d msg w (x.emit msg e) [] := by
    intro x same block
    have told := @Adds.emit T P d msg w x same block e
    rwa [unpaid] at told
  cases effect with
  | designated payer => exact silent (x := { w with store := _ }) rfl rfl
  | activated owner named => exact silent rfl rfl
  | revoked owner allowed => exact silent rfl rfl
  | created => cases unpaid
  | imported auth live deep recorded => exact silent rfl rfl
  | retired active retired named => exact silent rfl rfl
  | toppedUp => cases unpaid
  | skipped guarded => exact silent rfl rfl

theorem trace_adds_nothing {events : List Event} (unpaid : ∀ e ∈ events, e.paidFor = none)
    (trace : Trace (Effect d msg) w events w') : Adds d msg w w' [] := by
  refine (trace.restrict unpaid).invariant (fun x => Adds d msg w x []) (.refl w) ?_
  rintro x e x' ⟨effect, quiet⟩ added
  exact added.trans (Effect.adds_nothing effect quiet)

/-! ## What a call logs -/

/-- The volume of a payment is a record, still of the owner who paid. -/
structure Held (s : Storage) (p : Payment) : Prop where
  known : (s.volumes p.volumeId).status ≠ .none
  owner : (s.volumes p.volumeId).owner = p.owner

/-- What a call logs of its payments, and where their volumes are then. -/
structure Pays (d : Source.Deployment T P) (msg : Msg) (w w' : World T P) (payments : List Payment) :
    Prop where
  adds : Adds d msg w w' (payments.flatMap Payment.marks)
  held : ∀ p ∈ payments, Held w'.store p

theorem Held.kept {p : Payment} {sender : Address} {s s' : Storage} {events : List Event}
    (held : Held s p) (silent : ∀ e ∈ events, e.admission = none)
    (trace : Trace (StoreStep d sender) s events s') : Held s' p := by
  obtain ⟨status, written⟩ := (trace_quiet silent trace).2 p.volumeId
  exact ⟨mt status.mp held.known, (congrArg Prod.fst written).trans held.owner⟩

theorem Pays.of_nothing (nothing : Adds d msg w w' []) : Pays d msg w w' [] := ⟨nothing, by simp⟩

theorem triggerOne_pays (documented : d.Documented) {outcome : TriggerOutcome}
    (ok : triggerOne d msg w id = .ok (outcome, w')) :
    Pays d msg w w' (stepPayment d ⟨w, id, outcome, w'⟩).toList := by
  cases triggerOne_end ok with
  | idle status => exact .of_nothing (.emit rfl rfl _)
  | retired active edge retired =>
    exact .of_nothing (Effect.adds_nothing (.retired active retired edge.named) rfl)
  | noAuth due inactive => exact .of_nothing (.emit rfl rfl _)
  | noDeficit due auth full => exact .of_nothing (.refl w)
  | paymentFailed due auth short refused => exact .of_nothing (.emit rfl rfl _)
  | @toppedUp outpayment _ _ _ _ due auth short shifted payable pulled approved topped =>
    obtain ⟨store₁, _, _, postage₁⟩ := pull_frame pulled
    obtain ⟨store₂, _, _, postage₂⟩ := approve_frame approved
    have store := (topUp_frame topped).1.trans (store₂.trans store₁)
    have paid := (pull_adds documented pulled).trans
      ((approve_adds documented approved).trans (topUp_adds documented topped))
    rw [postage₂, postage₁, show (d.stamp.batches w.postage (w.store.volumes id).batchId).depth = _
      from due.depth] at paid
    simp only [stepPayment, TriggerStep.charge, due.read, Option.getD_some, if_true,
      Option.map_some, Option.toList_some]
    refine ⟨paid.trans (.emit rfl rfl _), fun p member => ?_⟩
    obtain rfl := List.mem_singleton.mp member
    refine ⟨?_, ?_⟩
    · rw [World.emit_store, store, due.active]
      nofun
    · rw [World.emit_store, store]

theorem triggerMany_pays (documented : d.Documented) {ids : List Bytes32}
    (ok : triggerMany d msg w ids = .ok w') :
    Pays d msg w w' ((triggerSteps d msg w ids).filterMap (stepPayment d)) := by
  induction ids generalizing w with
  | nil =>
    cases ok
    exact .of_nothing (.refl _)
  | cons id ids ih =>
    obtain ⟨mid, first, rest⟩ := bind_success ok
    obtain ⟨outcome, one⟩ := trigger_success first
    obtain ⟨adds, held⟩ := triggerOne_pays documented one
    obtain ⟨more, later⟩ := ih rest
    obtain ⟨events, trace, about⟩ := triggerMany_effects rest
    have silent : ∀ e ∈ events, e.admission = none := fun e member =>
      (about e member).elim fun _ about => triggerOf_admission about.2
    have listed : (triggerSteps d msg w (id :: ids)).filterMap (stepPayment d) =
        (stepPayment d ⟨w, id, outcome, mid⟩).toList ++
          (triggerSteps d msg mid ids).filterMap (stepPayment d) := by
      rw [triggerSteps, one]
      cases paid : stepPayment d ⟨w, id, outcome, mid⟩ with
      | none => exact List.filterMap_cons_none paid
      | some payment => exact List.filterMap_cons_some paid
    rw [listed]
    refine ⟨by rw [List.flatMap_append]; exact adds.trans more, fun p member => ?_⟩
    rcases List.mem_append.mp member with early | late
    · exact (held p early).kept silent (Effect.trace_store trace).1
    · exact later p late

/-- An admission writes an unused record, for its owner, and no other. -/
theorem admitted_volumes {sender : Address} {s s' : Storage} {e : Event} {a : Admission}
    (announced : e.admission = some a) (step : StoreStep d sender s e s') :
    (s.volumes a.volumeId).status = .none ∧ (s'.volumes a.volumeId).status ≠ .none ∧
    (s'.volumes a.volumeId).owner = a.owner ∧
    ∀ id, id ≠ a.volumeId → s'.volumes id = s.volumes id := by
  cases step with
  | admitted timestamp nextNonce announced' owner auth named unused =>
    obtain rfl := Option.some.inj (announced.symm.trans announced')
    refine ⟨unused, ?_, ?_, fun id other => ?_⟩
    · rw [Storage.enter_volumes, if_pos rfl]
      nofun
    · rw [Storage.enter_volumes, if_pos rfl]
      rfl
    · rw [Storage.enter_volumes, if_neg other]
  | _ => cases announced

theorem createVolume_pays (documented : d.Documented) {chunkSigner : Address}
    {depth bucketDepth : UInt8} {ttlExpiry : UInt64} {immutableBatch : Bool}
    (ok : createVolume d msg w chunkSigner depth bucketDepth ttlExpiry immutableBatch =
      .ok (id, w')) :
    Pays d msg w w' [⟨id, msg.sender, d.target w.postage * 2 ^ depth.toNat⟩] := by
  obtain ⟨batchId, effect⟩ := createVolume_effect ok
  obtain ⟨_, known, owner, _⟩ := admitted_volumes rfl effect.store.1
  cases effect with
  | @created _ _ bucketDepth _ immutable amount _ _ w₁ w₂ w₃ store auth _ _ pulled approved made =>
    have paid := (pull_adds documented pulled).trans
      ((approve_adds documented approved).trans (createBatch_adds documented made))
    have told : Adds d msg _ _ [.volume id] :=
      @Adds.emit T P d msg w₃ { w₃ with store } rfl rfl
        (.volumeCreated id msg.sender batchId chunkSigner depth ttlExpiry)
    refine ⟨paid.trans told, fun p member => ?_⟩
    obtain rfl := List.mem_singleton.mp member
    exact ⟨known, owner⟩

theorem payments_steps {call : Call} {value : Option Bytes32} (other : call.NotCreate) :
    callPayments d ⟨w, msg, call, .ok (value, w')⟩ =
      (call.steps d msg w).filterMap (stepPayment d) := by
  cases call with
  | createVolume => exact (other _ _ _ _ _ rfl).elim
  | _ => rfl

theorem execute_pays (documented : d.Documented) {call : Call} {value : Option Bytes32}
    (ok : execute d msg w call = .ok (value, w')) :
    Pays d msg w w' (callPayments d ⟨w, msg, call, .ok (value, w')⟩) := by
  cases execute_reach ok with
  | inside other steps block bzz postage trace unpaid =>
    rw [payments_steps other, steps]
    exact .of_nothing (trace_adds_nothing unpaid trace)
  | created ok => exact createVolume_pays documented ok
  | stepped other steps before block bzz postage ok unpaid =>
    obtain ⟨adds, held⟩ := triggerMany_pays documented ok
    rw [payments_steps other, steps]
    exact ⟨(trace_adds_nothing unpaid before).trans adds, held⟩

/-! ## What a run logs -/

variable {outside : World T P → World T P → Prop} {w₀ : World T P} {es : List (Entry T P)}

theorem CallStep.pays (documented : d.Documented) {e : Entry T P} (step : CallStep d outside w e w') :
    (∀ r ∈ e.added, r.tx = e.msg.tx) ∧
    e.added.filterMap (mark d) = (callPayments d e).flatMap Payment.marks ∧
    ∀ p ∈ callPayments d e, Held w'.store p := by
  have pays : Pays d e.msg e.before w' (callPayments d e) := by
    obtain ⟨before, msg, call, result⟩ := e
    have executed : result = _ := step.executed
    rw [step.left]
    cases result with
    | error r => exact .of_nothing (.refl before)
    | ok pair => exact execute_pays documented executed.symm
  obtain ⟨⟨_, more, grown, here, told⟩, held⟩ := pays
  have added : e.added = more := by
    rw [Entry.added, ← step.left, grown, List.drop_left]
  rw [added]
  exact ⟨fun r member => (here r member).2, told, held⟩

/-- Every admission in the log of a run is of a record, still of the owner admitted. -/
theorem run_admissions (deployed : Deployed d w₀) (run : Run d outside w₀ es w) :
    (∀ e ∈ w.events, ∀ a, e.admission = some a →
      (w.store.volumes a.volumeId).status ≠ .none ∧ (w.store.volumes a.volumeId).owner = a.owner) ∧
    ∀ id, (w.store.volumes id).status ≠ .none →
      ∃ e ∈ w.events, ∃ a, e.admission = some a ∧ a.volumeId = id := by
  refine run.invariant_events deployed (fun events s =>
    (∀ e ∈ events, ∀ a, e.admission = some a →
      (s.volumes a.volumeId).status ≠ .none ∧ (s.volumes a.volumeId).owner = a.owner) ∧
    ∀ id, (s.volumes id).status ≠ .none → ∃ e ∈ events, ∃ a, e.admission = some a ∧ a.volumeId = id)
    ⟨by simp, fun id known => absurd rfl known⟩ ?_
  rintro events sender s e s' _ step ⟨owned, known⟩
  cases announced : e.admission with
  | none =>
    have quiet := (step_quiet announced step).2
    refine ⟨fun x member a admits => ?_, fun id status => ?_⟩
    · rcases List.mem_append.mp member with early | last
      · obtain ⟨status, owner⟩ := owned x early a admits
        obtain ⟨same, written⟩ := quiet a.volumeId
        exact ⟨mt same.mp status, (congrArg Prod.fst written).trans owner⟩
      · rw [List.mem_singleton.mp last, announced] at admits
        cases admits
    · obtain ⟨x, member, found⟩ := known id (mt (quiet id).1.mpr status)
      exact ⟨x, List.mem_append_left _ member, found⟩
  | some new =>
    obtain ⟨unused, entered, owner, others⟩ := admitted_volumes announced step
    refine ⟨fun x member a admits => ?_, fun id status => ?_⟩
    · rcases List.mem_append.mp member with early | last
      · obtain ⟨status, same⟩ := owned x early a admits
        have other : a.volumeId ≠ new.volumeId := fun here => status (here ▸ unused)
        rw [others _ other]
        exact ⟨status, same⟩
      · rw [List.mem_singleton.mp last, announced] at admits
        obtain rfl := Option.some.inj admits
        exact ⟨entered, owner⟩
    · by_cases here : id = new.volumeId
      · exact ⟨e, by simp, new, announced, here.symm⟩
      · rw [others id here] at status
        obtain ⟨x, member, found⟩ := known id status
        exact ⟨x, List.mem_append_left _ member, found⟩

/-- The volume of a payment was admitted by then, and only ever for the owner who paid. -/
theorem run_owners (documented : d.Documented) (deployed : Deployed d w₀) (run : Run d ticks w₀ es w) :
    ∀ e ∈ es, ∀ p ∈ callPayments d e,
      (∃ r ∈ w.logs, ∃ a, admissionOf r = some a ∧ a.volumeId = p.volumeId ∧
        r.block.number ≤ e.block.number) ∧
      ∀ r ∈ w.logs, ∀ a, admissionOf r = some a → a.volumeId = p.volumeId → a.owner = p.owner := by
  intro e member p paid
  obtain ⟨pre, post, rfl⟩ := List.append_of_mem member
  obtain ⟨x, y, before, step, _⟩ := run.at_label
  have here : Run d ticks w₀ (pre ++ [e]) y := .snoc before step
  have held := (CallStep.pays documented step).2.2 p paid
  obtain ⟨event, told, a, announced, same⟩ := (run_admissions deployed here).2 p.volumeId held.known
  have owner := ((run_admissions deployed here).1 event told a announced).2
  obtain ⟨r, record, found⟩ := List.mem_filterMap.mp told
  have admits : admissionOf r = some a := by rw [admissionOf, found, Option.bind_some, announced]
  obtain ⟨logs, blocks⟩ := run_logs deployed here
  have kept : r ∈ w.logs := by
    rw [logs, List.flatMap_append, List.flatMap_singleton] at record
    rw [(run_logs deployed run).1, List.flatMap_append, List.flatMap_cons, ← List.append_assoc]
    exact List.mem_append_left _ record
  have all : ∀ r ∈ w.logs, ∀ a, admissionOf r = some a →
      (w.store.volumes a.volumeId).owner = a.owner := by
    intro r record a admits
    obtain ⟨event, found, announced⟩ := Option.bind_eq_some_iff.mp admits
    exact ((run_admissions deployed run).1 event (List.mem_filterMap.mpr ⟨r, record, found⟩) a
      announced).2
  refine ⟨⟨r, kept, a, admits, same, ?_⟩, fun r' record' a' admits' same' => ?_⟩
  · rw [logs] at record
    obtain ⟨e', entry, added⟩ := List.mem_flatMap.mp record
    rw [blocks e' entry r added, ← step.logs.2.2]
    rcases ((run_blocks here).2.1 e' entry).2 with same | earlier
    · rw [same]
    · exact earlier.1.le
  · rw [← all r' record' a' admits', same', ← held.owner, ← same, owner, same, ← same]
    exact all r kept a admits

/-! ## What the projector reads of it -/

/-- What the pairing reads of a row. -/
structure Reading where
  txHash : String
  transfer : Bool
  ts : Nat
  number : Nat
  value : Option Value

def reading (row : EventLogRow) : Reading where
  txHash := row.txHash
  transfer := row.eventName = "Transfer"
  ts := row.blockTs
  number := row.blockNumber
  value := row.args.get? (if row.eventName = "Transfer" then "value" else "volume_id")

def Mark.value : Mark → Value
  | .fee amount => natValue amount
  | .volume volumeId => hexValue volumeId

def Mark.isFee : Mark → Bool
  | .fee _ => true
  | .volume _ => false

/-- The reading of a mark in a block of a transaction. -/
def Mark.reading (block : Block) (tx : Bytes32) (m : Mark) : Reading where
  txHash := Hex.render tx
  transfer := m.isFee
  ts := block.timestamp
  number := block.number
  value := some m.value

variable {deploymentId : DeploymentId} {logs : List RawLog} {rows : List EventLogRow} {log : RawLog}

theorem rowOf_transfer {src dst : Address} {value : Nat}
    (same : log.record.log = .callee (.transfer src dst value)) :
    if src = d.address ∧ dst = d.postage then
      ∃ row, rowOf d deploymentId log = some row ∧ row.eventName = "Transfer" ∧
        row.args.get? "value" = some (natValue value) ∧ row.txHash = Hex.render log.record.tx
    else rowOf d deploymentId log = none := by
  unfold rowOf acquired decodeLog mapLog
  rw [same]
  by_cases forwarded : src = d.address ∧ dst = d.postage
  · rw [if_pos forwarded, if_pos (decide_eq_true forwarded)]
    exact ⟨_, rfl, rfl, rfl, rfl⟩
  · rw [if_neg forwarded, if_neg (by simpa using forwarded)]

/-- A log that is read for the pairing is one that carries a mark. -/
theorem rowOf_mark (named : ∀ e, log.record.event? = some e → Named e) :
    ((rowOf d deploymentId log).filter fun row => row.eventName ∈ paymentEvents).map reading =
      (mark d log.record).map (Mark.reading log.record.block log.record.tx) := by
  unfold mark
  cases same : log.record.log with
  | registry e =>
    obtain ⟨row, found, mapped, txHash⟩ := rowOf_registry (d := d) same (named e (by rw [Record.event?, same]))
    obtain ⟨_, number, ts, _⟩ := rowOf_place found
    obtain ⟨other, paying, _⟩ := mapEvent_name mapped
    rw [found]
    cases paid : e.paidFor with
    | none =>
      have unpaid : row.eventName ∉ paymentEvents := by
        rw [paying, paid]
        simp
      rw [Option.filter_some_neg (by simpa using unpaid)]
      simp [paid]
    | some id =>
      have payment : row.eventName ∈ paymentEvents := by
        rw [paying, paid]
        rfl
      have volume := (mapEvent_reads mapped).1 id paid
      rw [Option.filter_some_pos (by simpa using payment)]
      simp [paid, reading, Mark.reading, other, volume, txHash, number, ts, Mark.isFee, Mark.value]
  | callee callee =>
    cases callee with
    | transfer src dst value =>
      have row := @rowOf_transfer T P d deploymentId log _ _ _ same
      simp only [CalleeLog.transfer?, Option.bind_some, Deployment.toPostage]
      split at row
      · rename_i forwarded
        obtain ⟨row, found, name, amount, txHash⟩ := row
        obtain ⟨_, number, ts, _⟩ := rowOf_place found
        rw [found, if_pos forwarded]
        simp [reading, Mark.reading, name, amount, txHash, number, ts, Mark.isFee, Mark.value,
          paymentEvents]
      · rename_i elsewhere
        rw [row, if_neg elsewhere]
        rfl
    | other emitter =>
      rw [rowOf, acquired, same]
      rfl

/-- The marks of a run, as the projector reads them. -/
theorem marks_read (chain : Stored d w₀ es w deploymentId logs rows) :
    ((eventsOf deploymentId rows).of paymentEvents).map reading =
      es.flatMap fun e => (callPayments d e).flatMap fun p =>
        p.marks.map (Mark.reading e.block e.msg.tx) := by
  obtain ⟨logged, blocks⟩ := run_logs chain.deployed chain.run
  have read : ((eventsOf deploymentId rows).of paymentEvents).map reading =
      w.logs.filterMap fun r => (mark d r).map (Mark.reading r.block r.tx) := by
    rw [chain.of_names (by decide), List.filter_filterMap, List.map_filterMap, ← chain.indexes.records,
      List.filterMap_map]
    exact List.filterMap_congr fun log member => rowOf_mark (chain.named log member)
  rw [read, logged, List.filterMap_flatMap]
  refine List.flatMap_congr fun e member => ?_
  obtain ⟨sent, told⟩ : (∀ r ∈ e.added, r.tx = e.msg.tx) ∧
      e.added.filterMap (mark d) = (callPayments d e).flatMap Payment.marks := by
    obtain ⟨pre, post, rfl⟩ := List.append_of_mem member
    obtain ⟨x, y, before, step, _⟩ := chain.run.at_label
    obtain ⟨sent, told, _⟩ := CallStep.pays chain.documented step
    exact ⟨sent, told⟩
  have own : e.added.filterMap (fun r => (mark d r).map (Mark.reading r.block r.tx)) =
      (e.added.filterMap (mark d)).map (Mark.reading e.block e.msg.tx) := by
    rw [List.map_filterMap]
    refine List.filterMap_congr fun r added => ?_
    rw [blocks e member r added, sent r added]
  rw [own, told, List.map_flatMap]

/-- The payments of a transaction with the calls that made them. -/
def txPayments (d : Source.Deployment T P) (es : List (Entry T P)) (tx : Bytes32) :
    List (Entry T P × Payment) :=
  (es.filter fun e => e.msg.tx = tx).flatMap fun e => (callPayments d e).map fun p => (e, p)

/-- Its transfer, or the event that names its volume. -/
def Payment.side (p : Payment) (transfer : Bool) : Mark :=
  if transfer then .fee p.amount else .volume p.volumeId

def paidMark (transfer : Bool) (paid : Entry T P × Payment) : Reading :=
  Mark.reading paid.1.block paid.1.msg.tx (paid.2.side transfer)

theorem filter_marks (es : List (Entry T P)) (tx : Bytes32) (transfer : Bool) :
    (((es.flatMap fun e => (callPayments d e).flatMap fun p =>
      p.marks.map (Mark.reading e.block e.msg.tx)).filter fun r => r.transfer = transfer).filter
        fun r => r.txHash = Hex.render tx) = (txPayments d es tx).map (paidMark transfer) := by
  have rendered : ∀ other : Bytes32, Hex.render other = Hex.render tx ↔ other = tx := fun other =>
    (Hex.render_injective (by decide)).eq_iff
  have marks : ∀ e : Entry T P, ∀ ps : List Payment,
      (((ps.flatMap fun p => p.marks.map (Mark.reading e.block e.msg.tx)).filter
        fun r => r.transfer = transfer).filter fun r => r.txHash = Hex.render tx) =
      if e.msg.tx = tx then ps.map fun p => paidMark transfer (e, p) else [] := by
    intro e ps
    induction ps with
    | nil => simp
    | cons p ps ih =>
      rw [List.flatMap_cons, List.filter_append, List.filter_append, ih]
      by_cases here : e.msg.tx = tx
      · cases transfer with
        | _ => simp [here, Payment.marks, Mark.reading, Mark.isFee, paidMark, Payment.side]
      · cases transfer with
        | _ => simp [here, Payment.marks, Mark.reading, Mark.isFee, rendered]
  unfold txPayments
  induction es with
  | nil => rfl
  | cons e es ih =>
    rw [List.flatMap_cons, List.filter_append, List.filter_append, ih, marks]
    by_cases here : e.msg.tx = tx
    · simp [here]
    · simp [here]

theorem transfers_read (chain : Stored d w₀ es w deploymentId logs rows) (tx : Bytes32) :
    (transfers (eventsOf deploymentId rows) (Hex.render tx)).map reading =
      (txPayments d es tx).map (paidMark true) := by
  rw [← filter_marks, ← marks_read chain, List.filter_map, List.filter_map, transfers,
    List.filter_filter, List.filter_filter]
  exact congrArg _ (List.filter_congr fun row _ =>
    congrArg (_ && ·) (@Bool.decide_eq_true (reading row).transfer).symm)

theorem siblings_read (chain : Stored d w₀ es w deploymentId logs rows) (tx : Bytes32) :
    (siblings (eventsOf deploymentId rows) (Hex.render tx)).map reading =
      (txPayments d es tx).map (paidMark false) := by
  rw [← filter_marks, ← marks_read chain, List.filter_map, List.filter_map, siblings,
    List.filter_filter, List.filter_filter]
  exact congrArg _ (List.filter_congr fun row _ =>
    congrArg (_ && ·) (decide_not.trans (@Bool.decide_eq_false (reading row).transfer).symm))

theorem mem_txPayments {e : Entry T P} {p : Payment} {tx : Bytes32} :
    (e, p) ∈ txPayments d es tx ↔ e ∈ es ∧ e.msg.tx = tx ∧ p ∈ callPayments d e := by
  simp [txPayments]
  tauto

/-- Rows of a transaction are rows of a log of it. -/
theorem payment_tx (chain : Stored d w₀ es w deploymentId logs rows) {row : EventLogRow}
    (listed : row ∈ (eventsOf deploymentId rows).of paymentEvents) :
    ∃ tx : Bytes32, row.txHash = Hex.render tx := by
  have member := List.mem_map_of_mem (f := reading) listed
  rw [marks_read chain] at member
  obtain ⟨e, _, member⟩ := List.mem_flatMap.mp member
  obtain ⟨p, _, member⟩ := List.mem_flatMap.mp member
  obtain ⟨m, _, same⟩ := List.mem_map.mp member
  exact ⟨e.msg.tx, (congrArg Reading.txHash same).symm⟩

/-- The code pairs a transfer with an event exactly when they are one payment. -/
theorem sibling_paid (chain : Stored d w₀ es w deploymentId logs rows) {transfer sibling : EventLogRow}
    (paired : Sibling (eventsOf deploymentId rows) transfer sibling) :
    ∃ e ∈ es, ∃ p ∈ callPayments d e,
      reading transfer = paidMark true (e, p) ∧ reading sibling = paidMark false (e, p) := by
  obtain ⟨txHash, i, first, second⟩ := paired
  obtain ⟨tx, rfl⟩ : ∃ tx : Bytes32, Hex.render tx = txHash := by
    obtain ⟨listed, same⟩ := List.mem_filter.mp (List.mem_of_getElem? first)
    obtain ⟨tx, rendered⟩ := payment_tx chain (List.mem_of_mem_filter listed)
    exact ⟨tx, rendered.symm.trans (of_decide_eq_true same)⟩
  have left := congrArg (·[i]?) (transfers_read chain tx)
  have right := congrArg (·[i]?) (siblings_read chain tx)
  simp only [List.getElem?_map, first, second, Option.map_some] at left right
  obtain ⟨⟨e, p⟩, found, same⟩ := Option.map_eq_some_iff.mp left.symm
  rw [found, Option.map_some, Option.some.injEq] at right
  obtain ⟨member, _, listed⟩ := mem_txPayments.mp (List.mem_of_getElem? found)
  exact ⟨e, member, p, listed, same.symm, right⟩

theorem paid_sibling (chain : Stored d w₀ es w deploymentId logs rows) {e : Entry T P} {p : Payment}
    (member : e ∈ es) (paid : p ∈ callPayments d e) :
    ∃ transfer sibling, Sibling (eventsOf deploymentId rows) transfer sibling ∧
      reading transfer = paidMark true (e, p) ∧ reading sibling = paidMark false (e, p) := by
  obtain ⟨i, found⟩ := List.mem_iff_getElem?.mp (mem_txPayments.mpr ⟨member, rfl, paid⟩)
  have left := congrArg (·[i]?) (transfers_read chain e.msg.tx)
  have right := congrArg (·[i]?) (siblings_read chain e.msg.tx)
  simp only [List.getElem?_map, found, Option.map_some] at left right
  obtain ⟨transfer, first, same⟩ := Option.map_eq_some_iff.mp left
  obtain ⟨sibling, second, same'⟩ := Option.map_eq_some_iff.mp right
  exact ⟨transfer, sibling, ⟨_, i, first, second⟩, same, same'⟩

theorem paidMark_sibling {row : EventLogRow} {e : Entry T P} {p : Payment}
    (read : reading row = paidMark false (e, p)) :
    row.args.get? "volume_id" = some (hexValue p.volumeId) := by
  have other : row.eventName ≠ "Transfer" := of_decide_eq_false (congrArg Reading.transfer read)
  have value := congrArg Reading.value read
  change row.args.get? (if row.eventName = "Transfer" then _ else _) = _ at value
  rwa [if_neg other] at value

/-! ## Owners -/

theorem lastOwner_of_all {all : List EventLogRow} {volumeId owner : Value}
    (admitted : ∃ row ∈ all, ownership row = some (volumeId, owner))
    (same : ∀ row ∈ all, ∀ other, ownership row = some (volumeId, other) → other = owner) :
    lastOwner volumeId all = some owner := by
  obtain ⟨row, member, owned⟩ := admitted
  unfold lastOwner
  cases last : ((all.filterMap ownership).filter fun change => change.1 = volumeId).getLast? with
  | none =>
    have listed : (volumeId, owner) ∈ (all.filterMap ownership).filter fun change => change.1 = volumeId :=
      List.mem_filter.mpr ⟨List.mem_filterMap.mpr ⟨row, member, owned⟩, decide_eq_true rfl⟩
    rw [List.getLast?_eq_none_iff.mp last] at listed
    cases listed
  | some change =>
    obtain ⟨listed, here⟩ := List.mem_filter.mp (List.mem_of_getLast? last)
    obtain ⟨row', member', owned'⟩ := List.mem_filterMap.mp listed
    obtain ⟨volume, other⟩ := change
    obtain rfl : volume = volumeId := of_decide_eq_true here
    exact congrArg some (same row' member' other owned')

/-- The owner at the end of a payment's block is the owner who paid. -/
theorem held_owner (chain : Stored d w₀ es w deploymentId logs rows) {e : Entry T P} {p : Payment}
    (member : e ∈ es) (paid : p ∈ callPayments d e) {row : EventLogRow}
    (here : row.blockNumber = e.block.number) :
    heldAfterBlock (eventsOf deploymentId rows) (hexValue p.volumeId) row = some (hexValue p.owner) := by
  obtain ⟨⟨r, record, a, admits, same, early⟩, unique⟩ :=
    run_owners chain.documented chain.deployed chain.run e member p paid
  have words : Function.Injective (hexValue : Bytes32 → Value) := hexValue_injective (by decide)
  unfold heldAfterBlock
  rw [chain.of_names (by decide)]
  rw [← chain.indexes.records] at record unique
  refine lastOwner_of_all ?_ fun row' listed other owned => ?_
  · obtain ⟨log, origin, rfl⟩ := List.mem_map.mp record
    obtain ⟨event, told, announced⟩ := Option.bind_eq_some_iff.mp admits
    have registry : log.record.log = .registry event := by
      unfold Record.event? at told
      split at told
      · rename_i e' same
        rw [same, Option.some.inj told]
      · cases told
    obtain ⟨row', found, _⟩ := rowOf_registry (d := d) registry (chain.named log origin event told)
    obtain ⟨owns, reads⟩ := row_ownership found (chain.named log origin)
    refine ⟨row', List.mem_filter.mpr ⟨List.mem_filter.mpr ⟨List.mem_filterMap.mpr ⟨log, origin, found⟩,
      ?_⟩, ?_⟩, ?_⟩
    · exact decide_eq_true (owns.mpr (by rw [admits]; rfl))
    · rw [decide_eq_true_eq, (rowOf_place found).2.1, here]
      exact early
    · rw [reads a admits, same, unique _ (List.mem_map_of_mem origin) a admits same]
  · obtain ⟨listed, _⟩ := List.mem_filter.mp listed
    obtain ⟨listed, named⟩ := List.mem_filter.mp listed
    obtain ⟨log, origin, found⟩ := List.mem_filterMap.mp listed
    obtain ⟨owns, reads⟩ := row_ownership found (chain.named log origin)
    obtain ⟨a, announced⟩ := Option.isSome_iff_exists.mp (owns.mp (of_decide_eq_true named))
    obtain ⟨volume, rfl⟩ := Prod.mk.injEq .. ▸ Option.some.inj ((reads a announced).symm.trans owned)
    rw [unique _ (List.mem_map_of_mem origin) a announced (words volume)]

/-! ## The count -/

/-- The owners whose volumes paid in a window. -/
def payingOwners (d : Source.Deployment T P) (es : List (Entry T P)) (asOfTs n : Nat) : Finset Address :=
  (((es.filter fun e => (asOfTs : Int) - n * oneDay ≤ e.time ∧ e.time ≤ asOfTs).flatMap
    (callPayments d)).map Payment.owner).toFinset

theorem mem_payingOwners {asOfTs n : Nat} {owner : Address} :
    owner ∈ payingOwners d es asOfTs n ↔ ∃ e ∈ es, (asOfTs : Int) - n * oneDay ≤ e.time ∧
      e.time ≤ asOfTs ∧ ∃ p ∈ callPayments d e, p.owner = owner := by
  simp [payingOwners]
  tauto

theorem payers_eq (chain : Stored d w₀ es w deploymentId logs rows)
    {timeline : Dict Value (List (Nat × Value))}
    (held : ∀ volumeId row, ownerAt timeline volumeId row.blockNumber =
      heldAfterBlock (eventsOf deploymentId rows) volumeId row) (asOfTs n : Nat) :
    payers (eventsOf deploymentId rows) timeline asOfTs n =
      (payingOwners d es asOfTs n).image hexValue := by
  have pair : ∀ {transfer sibling : EventLogRow} {e : Entry T P} {p : Payment}, e ∈ es →
      p ∈ callPayments d e → reading transfer = paidMark true (e, p) →
      reading sibling = paidMark false (e, p) →
      transfer.blockTs = e.time ∧ ownerAt timeline ((sibling.args.get? "volume_id").getD (.int 0))
        transfer.blockNumber = some (hexValue p.owner) := by
    intro transfer sibling e p member paid first second
    have number : transfer.blockNumber = e.block.number := congrArg Reading.number first
    refine ⟨congrArg Reading.ts first, ?_⟩
    rw [held, paidMark_sibling second, Option.getD_some, held_owner chain member paid number]
  ext owner
  rw [mem_payers, Finset.mem_image]
  constructor
  · rintro ⟨transfer, sibling, paired, late, early, owned⟩
    obtain ⟨e, member, p, paid, first, second⟩ := sibling_paid chain paired
    obtain ⟨ts, owner'⟩ := pair member paid first second
    rw [ts] at late early
    refine ⟨p.owner, mem_payingOwners.mpr ⟨e, member, late, early, p, paid, rfl⟩, ?_⟩
    exact Option.some.inj (owner'.symm.trans owned)
  · rintro ⟨_, counted, rfl⟩
    obtain ⟨e, member, late, early, p, paid, rfl⟩ := mem_payingOwners.mp counted
    obtain ⟨transfer, sibling, paired, first, second⟩ := paid_sibling chain member paid
    obtain ⟨ts, owner'⟩ := pair member paid first second
    rw [← ts] at late early
    exact ⟨transfer, sibling, paired, late, early, owner'⟩

/-- On the decoded logs of a run, in any order, the transfers to PostageStamp and the
events beside them are the payments of each transaction one by one, every payment's
owner is found, and each window counts the distinct owners whose volumes paid in it. -/
theorem paying_accounts_exact (documented : d.Documented) (deployed : Deployed d w₀)
    (run : Run d ticks w₀ es w) (indexes : Indexes w logs) (deploymentId : DeploymentId) :
    ∃ decoded, decodeLogs d deploymentId logs = .ok decoded ∧ ∀ rows, rows.Perm decoded →
      (∀ tx : Bytes32,
        (transfers (eventsOf deploymentId rows) (Hex.render tx)).map reading =
          (txPayments d es tx).map (paidMark true) ∧
        (siblings (eventsOf deploymentId rows) (Hex.render tx)).map reading =
          (txPayments d es tx).map (paidMark false)) ∧
      (∃ timeline, ownerTimeline (eventsOf deploymentId rows) = .ok timeline ∧
        ∀ e ∈ es, ∀ p ∈ callPayments d e,
          ownerAt timeline (hexValue p.volumeId) e.block.number = some (hexValue p.owner)) ∧
      ∀ asOfTs windows, ∃ paid, paidInWindow (eventsOf deploymentId rows) asOfTs windows = .ok paid ∧
        ∀ n ∈ windows, paid.get? (toString n ++ "d") = some (payingOwners d es asOfTs n).card := by
  have decodable : Stored d w₀ es w (0, "") logs _ := ⟨documented, deployed, run, indexes, .refl _⟩
  refine ⟨_, decodeLogs_ok decodable.named, fun rows stored => ?_⟩
  have chain : Stored d w₀ es w deploymentId logs rows := ⟨documented, deployed, run, indexes, stored⟩
  refine ⟨fun tx => ⟨transfers_read chain tx, siblings_read chain tx⟩, ?_, fun asOfTs windows => ?_⟩
  · obtain ⟨timeline, computed, held⟩ := ownerTimeline_ok chain.legible
    refine ⟨timeline, computed, fun e member p paid => ?_⟩
    obtain ⟨transfer, _, _, first, _⟩ := paid_sibling chain member paid
    have number : transfer.blockNumber = e.block.number := congrArg Reading.number first
    rw [← number, held, held_owner chain member paid number]
  · obtain ⟨timeline, _, held, paid, ran, counted⟩ := paidInWindow_ok chain.legible asOfTs windows
    refine ⟨paid, ran, fun n member => ?_⟩
    rw [counted n member, payers_eq chain held,
      Finset.card_image_of_injective _ (hexValue_injective (by decide))]

theorem paying_accounts_exact_sample : ∃ decoded paid,
    decodeLogs Sample.deployment (100, "0x1") (indexed Sample.final.logs) = .ok decoded ∧
    paidInWindow (eventsOf (100, "0x1") decoded) 1000 [7] = .ok paid ∧
    paid.get? "7d" = some 1 := by
  obtain ⟨decoded, decodes, exact_⟩ := paying_accounts_exact Sample.documented Sample.deployed
    (Sample.run fun _ => .inl rfl) (indexes_indexed _) (100, "0x1")
  obtain ⟨paid, ran, counted⟩ := (exact_ decoded (.refl _)).2.2 1000 [7]
  have one : (payingOwners Sample.deployment Sample.entries 1000 7).card = 1 := by decide +kernel
  have count := counted 7 (List.mem_singleton_self 7)
  rw [one] at count
  exact ⟨decoded, paid, decodes, ran, count⟩

end SwarmVolumes.Guarantees.PayingAccounts
