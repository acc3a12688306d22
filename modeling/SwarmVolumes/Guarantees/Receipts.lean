import SwarmVolumes.Guarantees.ChargeCorrectness
import SwarmVolumes.Source.Keeper.Events

/-!
# Trigger receipts

The keeper's summary of a trigger receipt against what the trigger steps did.
They agree exactly when the ID names an Active volume: for an unknown ID and for
a Retired volume the contract reports a reason the keeper's table lacks.
-/
namespace SwarmVolumes.Guarantees.Receipts
open Library Source Source.Keeper

variable {T P : Type} {d : Deployment T P} {msg : Msg} {w w' : World T P}
variable {id : Bytes32} {outcome : TriggerOutcome} {stray : CalleeLog → Option KeeperEvent}

/-- The logs of a called contract carry its own address, not the registry's. -/
structure Foreign (d : Deployment T P) : Prop where
  token : d.bzz ≠ d.address
  transferFrom : ∀ {now t sender src dst n t' logs},
    d.token.transferFrom now t sender src dst n = some (true, t', logs) →
    ∀ emitter, .other emitter ∈ logs → emitter ≠ d.address
  approve : ∀ {now t sender spender n t' logs},
    d.token.approve now t sender spender n = some (true, t', logs) →
    ∀ emitter, .other emitter ∈ logs → emitter ≠ d.address
  topUp : ∀ {b t p sender id perChunk r}, d.stamp.topUp b t p sender id perChunk = some r →
    ∀ emitter, .other emitter ∈ r.logs → emitter ≠ d.address

/-- The registry's events of the transaction from `w` to `w'`. -/
def emitted (w w' : World T P) : List Event := w'.events.drop w.events.length

/-- The keeper's summary of a transaction. -/
def summary (d : Deployment T P) (stray : CalleeLog → Option KeeperEvent) (w w' : World T P)
    (id : Bytes32) : VolumeSummary :=
  summarizeVolume (decodeCycleEvents (receiptLogs d stray w w') d.address) id

/-- The summary says what the contract did: how the trigger steps ended, what they
took from the payer, and the reason they emitted. -/
structure Faithful (d : Deployment T P) (w w' : World T P) (id : Bytes32)
    (outcome : TriggerOutcome) (summary : VolumeSummary) : Prop where
  toppedUp : ∀ amount, summary = .toppedUp amount ↔
    outcome = .toppedUp ∧ d.token.balanceOf w.bzz (w.store.accounts (w.store.volumes id).owner).payer =
      d.token.balanceOf w'.bzz (w.store.accounts (w.store.volumes id).owner).payer + amount
  retired : ∀ reason, summary = .retired reason ↔ outcome = .retired ∧
    ∃ r, .volumeRetired id r ∈ emitted w w' ∧ reason = r.member
  topupSkipped : ∀ reason, summary = .topupSkipped reason ↔ outcome = .skipped ∧
    ∃ r, .topupSkipped id r ∈ emitted w w' ∧ reason = r.member
  noop : summary = .noop ↔ outcome = .noDeficit

/-! ## What a receipt carries -/

/-- From `w` to `w'` the registry logged `events`, after logs of other contracts. -/
def Carries (d : Deployment T P) (w w' : World T P) (events : List Event) : Prop :=
  ∃ others : List CalleeLog, (∀ emitter, .other emitter ∈ others → emitter ≠ d.address) ∧
    ∃ more, w'.logs = w.logs ++ more ∧
      more.map Record.log = others.map Log.callee ++ events.map Log.registry

def registryEvent : Log → Option Event
  | .registry event => some event
  | .callee _ => none

namespace Carries

variable {events : List Event}

theorem refl (w : World T P) : Carries d w w [] := ⟨[], nofun, [], by simp, rfl⟩

theorem emit (carries : Carries d w w' []) (e : Event) : Carries d w (w'.emit msg e) [e] := by
  obtain ⟨others, foreign, more, grown, same⟩ := carries
  refine ⟨others, foreign, more ++ [⟨w'.block, msg.tx, .registry e⟩], ?_, ?_⟩
  · rw [World.emit, grown, List.append_assoc]
  · rw [List.map_append, same]
    simp

theorem absorb (carries : Carries d w w' []) {logs : List CalleeLog}
    (foreign : ∀ emitter, .other emitter ∈ logs → emitter ≠ d.address) :
    Carries d w (w'.absorb msg logs) [] := by
  obtain ⟨others, apart, more, grown, same⟩ := carries
  refine ⟨others ++ logs, fun emitter member => ?_,
    more ++ logs.map fun log => ⟨w'.block, msg.tx, .callee log⟩, ?_, ?_⟩
  · rcases List.mem_append.mp member with early | late
    · exact apart emitter early
    · exact foreign emitter late
  · rw [World.absorb, grown, List.append_assoc]
  · rw [List.map_append, same]
    simp

/-- The receipt decodes to the registry's own events, whatever the others log. -/
theorem decoded (carries : Carries d w w' events) (token : d.bzz ≠ d.address) :
    decodeCycleEvents (receiptLogs d stray w w') d.address =
      (events.filterMap decodeEvent).foldl DecodedEvents.push .empty := by
  obtain ⟨others, foreign, more, grown, same⟩ := carries
  have logs : receiptLogs d stray w w' = (others.map fun log => receiptLog d stray (.callee log)) ++
      events.map fun e => ⟨d.address, decodeEvent e⟩ := by
    rw [receiptLogs, grown, List.drop_left]
    change more.map ((receiptLog d stray) ∘ Record.log) = _
    rw [← List.map_map, same, List.map_append, List.map_map, List.map_map]
    rfl
  have dropped : (others.map fun log => receiptLog d stray (.callee log)).filter
      (fun log => log.address = d.address) = [] := by
    rw [List.filter_eq_nil_iff]
    intro log member
    obtain ⟨other, listed, rfl⟩ := List.mem_map.mp member
    cases other with
    | transfer src dst value => exact fun same => token (of_decide_eq_true same)
    | other emitter => exact fun same => foreign emitter listed (of_decide_eq_true same)
  have kept : (events.map fun e => (⟨d.address, decodeEvent e⟩ : ReceiptLog)).filter
      (fun log => log.address = d.address) = events.map fun e => ⟨d.address, decodeEvent e⟩ := by
    rw [List.filter_eq_self]
    intro log member
    obtain ⟨e, _, rfl⟩ := List.mem_map.mp member
    simp
  rw [decodeCycleEvents, logs, List.filter_append, dropped, kept, List.nil_append, parseEventLogs,
    List.filterMap_map]
  rfl

theorem emitted (carries : Carries d w w' events) : emitted w w' = events := by
  obtain ⟨others, _, more, grown, same⟩ := carries
  have tail : more.filterMap Record.event? = events := by
    have logs : Record.event? = registryEvent ∘ Record.log := rfl
    rw [logs, ← List.filterMap_map, same, List.filterMap_append, List.filterMap_map,
      List.filterMap_map]
    simp [registryEvent, Function.comp_def]
  rw [Receipts.emitted, World.events, World.events, grown, List.filterMap_append, List.drop_left,
    tail]

end Carries

/-- Pulling, approving and topping up log nothing of the registry. -/
theorem paid_carries (foreign : Foreign d) {payer : Address} {amount deficit : Nat}
    {batchId : Bytes32} {w₁ w₂ : World T P} (pulled : pull d msg w payer amount = .ok w₁)
    (approved : approve d msg w₁ amount = .ok w₂) (topped : topUp d msg w₂ batchId deficit = .ok w') :
    Carries d w w' [] := by
  obtain ⟨bzz₁, logs₁, first, rfl⟩ := pull_success pulled
  obtain ⟨bzz₂, logs₂, second, rfl⟩ := approve_success approved
  obtain ⟨reply, third, rfl⟩ := topUp_success topped
  have one : Carries d w (({ w with bzz := bzz₁ } : World T P).absorb msg logs₁) [] :=
    (Carries.refl w).absorb (foreign.transferFrom first)
  have two : Carries d w ((_ : World T P).absorb msg logs₂) [] := one.absorb (foreign.approve second)
  exact two.absorb (foreign.topUp third)

/-! ## One event, one summary -/

theorem summary_eq (foreign : Foreign d) {events : List Event} (carries : Carries d w w' events) :
    summary d stray w w' id =
      summarizeVolume ((events.filterMap decodeEvent).foldl DecodedEvents.push .empty) id := by
  rw [summary, carries.decoded foreign.token]

/-- The retirement table has every reason the trigger steps emit. -/
theorem name_retireReasons {r : RetireReason} (named : r ≠ .none) :
    name retireReasons r.value = r.member := by
  cases r with
  | none => exact absurd rfl named
  | _ => rfl

/-- The skip table has the reasons of Active volumes. -/
theorem name_skipReasons {status : Status} {r : SkipReason} (guard : SkipGuard status r) :
    name skipReasons r.value = r.member ↔ status = .active := by
  cases guard with
  | notFound => decide
  | notActive => decide
  | noAuth => decide
  | paymentFailed => decide

/-- Why a skip was reported, with the volume's status. -/
theorem faithful_skipped (foreign : Foreign d) {r : SkipReason}
    (carries : Carries d w w' [.topupSkipped id r]) (guard : SkipGuard (w.store.volumes id).status r) :
    Faithful d w w' id .skipped (summary d stray w w' id) ↔
      (w.store.volumes id).status = .active := by
  have said : summary d stray w w' id = .topupSkipped (name skipReasons r.value) := by
    rw [summary_eq foreign carries]
    simp [decodeEvent, DecodedEvents.push, summarizeVolume, DecodedEvents.empty]
  have events := carries.emitted
  rw [said, ← name_skipReasons guard]
  constructor
  · intro faithful
    obtain ⟨_, r', member, same⟩ := (faithful.topupSkipped _).mp rfl
    rw [events, List.mem_singleton] at member
    cases member
    exact same
  · intro same
    constructor
    · simp
    · simp
    · simp [events, same, eq_comm]
    · simp

theorem faithful_retired (foreign : Foreign d) {r : RetireReason}
    (carries : Carries d w w' [.volumeRetired id r]) (named : r ≠ .none) :
    Faithful d w w' id .retired (summary d stray w w' id) := by
  have said : summary d stray w w' id = .retired r.member := by
    rw [summary_eq foreign carries, ← name_retireReasons named]
    simp [decodeEvent, DecodedEvents.push, summarizeVolume, DecodedEvents.empty]
  rw [said]
  constructor
  · simp
  · simp [carries.emitted, eq_comm]
  · simp
  · simp

theorem faithful_noDeficit (foreign : Foreign d) (carries : Carries d w w' []) :
    Faithful d w w' id .noDeficit (summary d stray w w' id) := by
  have said : summary d stray w w' id = .noop := by
    rw [summary_eq foreign carries]
    simp [summarizeVolume, DecodedEvents.empty]
  rw [said]
  constructor
  · simp
  · simp
  · simp
  · simp

theorem faithful_toppedUp (foreign : Foreign d) {amount newBalance : Nat}
    (carries : Carries d w w' [.toppedup id amount newBalance])
    (taken : d.token.balanceOf w'.bzz (w.store.accounts (w.store.volumes id).owner).payer + amount =
      d.token.balanceOf w.bzz (w.store.accounts (w.store.volumes id).owner).payer) :
    Faithful d w w' id .toppedUp (summary d stray w w' id) := by
  have said : summary d stray w w' id = .toppedUp amount := by
    rw [summary_eq foreign carries]
    simp [decodeEvent, DecodedEvents.push, summarizeVolume, DecodedEvents.empty]
  rw [said]
  constructor
  · intro other
    simp only [VolumeSummary.toppedUp.injEq, true_and]
    omega
  · simp
  · simp
  · simp

/-- One case for each way the trigger steps end. -/
theorem triggerOne_faithful (documented : d.Documented) (foreign : Foreign d)
    (payers : ExternalPayers d w.store) (ok : triggerOne d msg w id = .ok (outcome, w')) :
    Faithful d w w' id outcome (summary d stray w w' id) ↔
      (w.store.volumes id).status = .active := by
  cases triggerOne_end ok with
  | idle status =>
    apply faithful_skipped foreign ((Carries.refl w).emit _)
    cases same : (w.store.volumes id).status with
    | none => exact .notFound
    | active => exact absurd same status
    | retired => exact .notActive
  | noAuth due inactive =>
    apply faithful_skipped foreign ((Carries.refl w).emit _)
    rw [due.active]
    exact .noAuth
  | paymentFailed due auth short refused =>
    apply faithful_skipped foreign ((Carries.refl w).emit _)
    rw [due.active]
    exact .paymentFailed
  | @retired reason store active edge retired =>
    have stored : Carries d w { w with store } [] := Carries.refl w
    exact iff_of_true (faithful_retired foreign (stored.emit _) edge.named) active
  | noDeficit due auth full =>
    exact iff_of_true (faithful_noDeficit foreign (Carries.refl w)) due.active
  | @toppedUp outpayment amount w₁ w₂ w₃ due auth short shifted payable pulled approved topped =>
    obtain ⟨product, paid⟩ := topUp_paid documented shifted due.depth pulled approved topped
    have finite := charge_finite (d.deficit_lt w.postage (w.store.volumes id) outpayment)
      (w.store.volumes id).depth.toNat
    rw [← product] at finite
    have external := payers _ auth
    have settled := (paid.settled documented external finite (w.store.volumes id).owner).payers _
      external.notRegistry external.notPostage
    have carries := paid_carries foreign pulled approved topped
    refine iff_of_true (faithful_toppedUp foreign (carries.emit _) ?_) due.active
    rw [World.emit_bzz, ← settled]
    simp [taken]

/-- The keeper's summary of a successful `trigger(id)` is what the contract did
exactly when `id` names an Active volume. -/
theorem summary_faithful_iff {outside : World T P → World T P → Prop} {w₀ : World T P}
    {es : List (Entry T P)} {value : Option Bytes32} (documented : d.Documented)
    (foreign : Foreign d) (deployed : Deployed d w₀) (run : Run d outside w₀ es w)
    (called : execute d msg w (.trigger id) = .ok (value, w')) :
    ∃ outcome, triggerOne d msg w id = .ok (outcome, w') ∧
      (Faithful d w w' id outcome (summary d stray w w' id) ↔
        (w.store.volumes id).status = .active) := by
  obtain ⟨after, triggered, same⟩ := map_success called
  cases same
  obtain ⟨outcome, ended⟩ := trigger_success triggered
  have payers := run_payers deployed run
  exact ⟨outcome, ended, triggerOne_faithful documented foreign payers ended⟩

/-! ## Samples -/

theorem reference_foreign : Foreign Sample.deployment where
  token := by decide
  transferFrom := by
    intro now t sender src dst n t' logs ok emitter member
    obtain ⟨_, _, _, rfl⟩ := Reference.Ledger.transferFrom_success ok
    simp at member
  approve := by
    intro now t sender spender n t' logs ok emitter member
    obtain ⟨_, rfl⟩ := Reference.Ledger.approve_success now ok
    obtain rfl : emitter = Reference.tokenAddress := by simpa using member
    decide
  topUp := by
    intro b t p sender id perChunk r ok emitter member
    obtain ⟨_, pulled, _⟩ := Reference.topUp_success ok
    obtain ⟨_, _, _, logs⟩ := Reference.Ledger.transferFrom_success pulled
    rw [logs] at member
    simp at member

theorem ended_of_outcome {x : Except Revert (TriggerOutcome × World T P)}
    (ended : x.toOption.map Prod.fst = some outcome) : ∃ after, x = .ok (outcome, after) := by
  cases x with
  | error r => cases ended
  | ok pair =>
    cases ended
    exact ⟨pair.2, rfl⟩

theorem summary_faithful_sample : ∃ after,
    triggerOne Sample.deployment ⟨0xD, 5⟩ Sample.enrolled Sample.first = .ok (.toppedUp, after) ∧
    Faithful Sample.deployment Sample.enrolled after Sample.first .toppedUp
      (summary Sample.deployment (fun _ => none) Sample.enrolled after Sample.first) := by
  have run : Run Sample.deployment anything Sample.genesis
      (play Sample.deployment Sample.genesis Sample.enrolling).1 Sample.enrolled :=
    Sample.enrolled_run anything_refl
  obtain ⟨after, ok⟩ : ∃ after, triggerOne Sample.deployment ⟨0xD, 5⟩ Sample.enrolled Sample.first =
      .ok (.toppedUp, after) := ended_of_outcome (by decide)
  have called : execute Sample.deployment ⟨0xD, 5⟩ Sample.enrolled (.trigger Sample.first) =
      .ok (none, after) := by
    rw [execute, trigger, ok]
    rfl
  obtain ⟨outcome, ended, faithful⟩ :=
    summary_faithful_iff Sample.documented reference_foreign Sample.deployed run called
  rw [ok] at ended
  cases ended
  exact ⟨after, ok, faithful.mpr (by decide)⟩

/-- The reason the contract emits for a volume that is not Active, and what the
keeper makes of it. -/
theorem unnamed_skip (foreign : Foreign d) {r : SkipReason} {said : String}
    (idle : (w.store.volumes id).status = .none ∧ r = .notFound ∨
      (w.store.volumes id).status = .retired ∧ r = .notActive)
    (shown : name skipReasons r.value = said) :
    ∃ after, triggerOne d msg w id = .ok (.skipped, after) ∧ emitted w after = [.topupSkipped id r] ∧
      summary d stray w after id = .topupSkipped said ∧
      ¬ Faithful d w after id .skipped (summary d stray w after id) := by
  have carries : Carries d w (w.emit msg (.topupSkipped id r)) [.topupSkipped id r] :=
    (Carries.refl w).emit _
  have ended : triggerOne d msg w id = .ok (.skipped, w.emit msg (.topupSkipped id r)) := by
    rcases idle with ⟨status, rfl⟩ | ⟨status, rfl⟩
    · simp [triggerOne, status, skip]
    · simp [triggerOne, status, skip]
  have guard : SkipGuard (w.store.volumes id).status r := by
    rcases idle with ⟨status, rfl⟩ | ⟨status, rfl⟩
    · rw [status]
      exact .notFound
    · rw [status]
      exact .notActive
  refine ⟨_, ended, carries.emitted, ?_, ?_⟩
  · rw [summary_eq foreign carries, ← shown]
    simp [decodeEvent, DecodedEvents.push, summarizeVolume, DecodedEvents.empty]
  · rw [faithful_skipped foreign carries guard]
    rcases idle with ⟨status, _⟩ | ⟨status, _⟩
    · simp [status]
    · simp [status]

/-- Two receipts whose reason the keeper cannot name: of an ID that was never
issued, and of a deleted volume. -/
theorem unnamed_reasons :
    (∃ after, triggerOne Sample.deployment ⟨0xD, 9⟩ Sample.genesis Sample.first = .ok (.skipped, after) ∧
      emitted Sample.genesis after = [.topupSkipped Sample.first .notFound] ∧
      summary Sample.deployment (fun _ => none) Sample.genesis after Sample.first =
        .topupSkipped "Unknown(3)" ∧
      ¬ Faithful Sample.deployment Sample.genesis after Sample.first .skipped
        (summary Sample.deployment (fun _ => none) Sample.genesis after Sample.first)) ∧
    (∃ after, triggerOne Sample.deployment ⟨0xD, 9⟩ Sample.final Sample.first = .ok (.skipped, after) ∧
      emitted Sample.final after = [.topupSkipped Sample.first .notActive] ∧
      summary Sample.deployment (fun _ => none) Sample.final after Sample.first =
        .topupSkipped "Unknown(4)" ∧
      ¬ Faithful Sample.deployment Sample.final after Sample.first .skipped
        (summary Sample.deployment (fun _ => none) Sample.final after Sample.first)) := by
  constructor
  · apply unnamed_skip reference_foreign
    · exact .inl ⟨by decide, rfl⟩
    · decide
  · apply unnamed_skip reference_foreign
    · exact .inr ⟨by decide, rfl⟩
    · decide

end SwarmVolumes.Guarantees.Receipts
