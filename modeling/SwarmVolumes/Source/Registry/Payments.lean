import SwarmVolumes.Source.Registry.Effects

/-!
# Payments

Creating a volume and topping a batch up move BZZ the same way: the registry
pulls the amount from the payer, approves PostageStamp for it, and PostageStamp
pulls what its own checked product says. The truncating shift of the registry is
exact because that product did not overflow.
-/
namespace SwarmVolumes.Source
open Library Library.Erc20

variable {T P : Type} {d : Deployment T P} {msg : Msg} {w w' : World T P}

/-- What the registry relies on of the contracts it is wired to. -/
structure Deployment.Documented (d : Deployment T P) : Prop where
  located : d.address ≠ 0
  apart : d.address ≠ d.postage
  token : d.token.Documented
  stamp : d.stamp.Documented d.token d.postage

def Record.transfer? (r : Record) : Option (Address × Address × Nat) :=
  match r.log with
  | .registry _ => none
  | .callee log => log.transfer?

/-- The BZZ `Transfer`s of a world's log. -/
def World.transfers (w : World T P) : List (Address × Address × Nat) :=
  w.logs.filterMap Record.transfer?

@[simp] theorem World.transfers_emit (w : World T P) (msg : Msg) (e : Event) :
    (w.emit msg e).transfers = w.transfers := by
  simp [World.transfers, World.emit, Record.transfer?]

@[simp] theorem World.transfers_absorb (w : World T P) (msg : Msg) (logs : List CalleeLog) :
    (w.absorb msg logs).transfers = w.transfers ++ logs.filterMap CalleeLog.transfer? := by
  rw [World.transfers, World.transfers, World.absorb, List.filterMap_append, List.filterMap_map]
  rfl

/-- `amount` went from `payer` through the registry to PostageStamp. -/
structure Paid (d : Deployment T P) (w w' : World T P) (payer : Address) (amount : Nat) : Prop where
  passed : PassThrough d.token.toToken w.block.timestamp w.bzz payer d.address d.postage amount
    amount w'.bzz
  transfers : w'.transfers = w.transfers ++
    [(payer, d.address, amount), (d.address, d.postage, amount)]

/-- Pull and approval, then any call in which PostageStamp pulls the amount. -/
theorem paid_of_forward (documented : d.Documented) {payer : Address} {amount : Nat}
    {w₁ w₂ w₃ : World T P} {logs : List CalleeLog}
    (pulled : pull d msg w payer amount = .ok w₁) (approved : approve d msg w₁ amount = .ok w₂)
    (forwarded : d.token.transferFrom w₂.block.timestamp w₂.bzz d.postage d.address d.postage amount =
      some (true, w₃.bzz, logs))
    (logged : w₃.transfers = w₂.transfers ++ logs.filterMap CalleeLog.transfer?) :
    Paid d w w₃ payer amount := by
  obtain ⟨bzz₁, logs₁, first, rfl⟩ := pull_success pulled
  obtain ⟨bzz₂, logs₂, second, rfl⟩ := approve_success approved
  refine ⟨⟨bzz₁, bzz₂, logs₁, logs₂, logs, first, second, forwarded⟩, ?_⟩
  rw [logged, documented.token.transferFrom_logs forwarded, World.transfers_absorb,
    documented.token.approve_logs second]
  change (({ w with bzz := bzz₁ } : World T P).absorb msg logs₁).transfers ++ [] ++ _ = _
  rw [World.transfers_absorb, documented.token.transferFrom_logs first, List.append_nil,
    List.append_assoc]
  rfl

/-- Topping up: the shifted deficit is the exact product, and it is paid. -/
theorem topUp_paid (documented : d.Documented) {payer : Address} {amount deficit : Nat}
    {depth : UInt8} {batchId : Bytes32} {w₁ w₂ w₃ : World T P}
    (shifted : amount = Word.shl deficit depth.toNat)
    (same : (d.stamp.batches w.postage batchId).depth = depth)
    (pulled : pull d msg w payer amount = .ok w₁) (approved : approve d msg w₁ amount = .ok w₂)
    (topped : topUp d msg w₂ batchId deficit = .ok w₃) :
    amount = deficit * 2 ^ depth.toNat ∧ Paid d w w₃ payer amount := by
  obtain ⟨reply, called, rfl⟩ := topUp_success topped
  have postage : w₂.postage = w.postage :=
    (approve_frame approved).2.2.2.trans (pull_frame pulled).2.2.2
  obtain ⟨fits, logs, forwarded, logged⟩ := documented.stamp.topUp_pulls called
  rw [postage, same] at fits forwarded
  have exact_ : amount = batchCost deficit depth := shifted.trans (Word.shl_exact fits)
  rw [← exact_] at forwarded
  refine ⟨exact_, paid_of_forward documented pulled approved forwarded ?_⟩
  rw [World.transfers_absorb, logged]
  rfl

/-- Creating a batch: the same with the initial balance per chunk. -/
theorem createBatch_paid (documented : d.Documented) {payer : Address} {amount perChunk : Nat}
    {depth bucketDepth : UInt8} {chunkSigner : Address} {immutableBatch : Bool}
    {batchId : Bytes32} {w₁ w₂ w₃ : World T P}
    (shifted : amount = Word.shl perChunk depth.toNat)
    (pulled : pull d msg w payer amount = .ok w₁) (approved : approve d msg w₁ amount = .ok w₂)
    (made : createBatch d msg w₂ chunkSigner perChunk depth bucketDepth immutableBatch =
      .ok (batchId, w₃)) :
    amount = perChunk * 2 ^ depth.toNat ∧ Paid d w w₃ payer amount := by
  obtain ⟨reply, called, rfl⟩ := createBatch_success made
  obtain ⟨fits, logs, forwarded, logged⟩ := documented.stamp.createBatch_pulls called
  have exact_ : amount = batchCost perChunk depth := shifted.trans (Word.shl_exact fits)
  rw [← exact_] at forwarded
  refine ⟨exact_, paid_of_forward documented pulled approved forwarded ?_⟩
  rw [World.transfers_absorb, logged]
  rfl

/-- PostageStamp after a top-up: batch `id` holds `n` more for every chunk, and
nothing else the registry reads has changed. -/
structure Raised (d : Deployment T P) (p p' : P) (id : Bytes32) (n : Nat) : Prop where
  owner : (d.stamp.batches p' id).owner = (d.stamp.batches p id).owner
  depth : (d.stamp.batches p' id).depth = (d.stamp.batches p id).depth
  balance : (d.stamp.batches p' id).normalisedBalance = (d.stamp.batches p id).normalisedBalance + n
  others : ∀ other, other ≠ id → d.stamp.batches p' other = d.stamp.batches p other
  outpayment : ∀ now, d.stamp.currentTotalOutPayment now p' = d.stamp.currentTotalOutPayment now p
  price : d.stamp.lastPrice p' = d.stamp.lastPrice p
  validity : d.stamp.minimumValidityBlocks p' = d.stamp.minimumValidityBlocks p
  bucketDepth : d.stamp.minimumBucketDepth p' = d.stamp.minimumBucketDepth p
  paused : d.stamp.paused p' = d.stamp.paused p

theorem Raised.target {p p' : P} {id : Bytes32} {n : Nat} (raised : Raised d p p' id n) :
    d.target p' = d.target p := by
  rw [Deployment.target, raised.price, Deployment.target]

theorem topUp_raised (documented : d.Documented) {batchId : Bytes32} {deficit : Nat}
    (topped : topUp d msg w batchId deficit = .ok w') :
    Raised d w.postage w'.postage batchId deficit := by
  obtain ⟨reply, called, rfl⟩ := topUp_success topped
  obtain ⟨owner, depth, balance⟩ := documented.stamp.topUp_batch called
  obtain ⟨others, outpayment, price, validity, bucketDepth, paused⟩ :=
    documented.stamp.topUp_frame called
  exact ⟨owner, depth, balance, others, outpayment, price, validity, bucketDepth, paused⟩

/-- What the trigger steps do outside the registry: nothing, or one top-up. -/
theorem triggerOne_outside (documented : d.Documented) {id : Bytes32} {outcome : TriggerOutcome}
    (ok : triggerOne d msg w id = .ok (outcome, w')) :
    w'.block = w.block ∧
    ((outcome ≠ .toppedUp ∧ w'.postage = w.postage ∧ w'.bzz = w.bzz) ∨
      (outcome = .toppedUp ∧ ∃ outpayment, Due d w (w.store.volumes id) outpayment ∧
        Raised d w.postage w'.postage (w.store.volumes id).batchId
          (d.deficit w.postage (w.store.volumes id) outpayment))) := by
  cases triggerOne_end ok with
  | idle status => exact ⟨rfl, .inl ⟨by decide, rfl, rfl⟩⟩
  | retired active edge retired => exact ⟨rfl, .inl ⟨by decide, rfl, rfl⟩⟩
  | noAuth due inactive => exact ⟨rfl, .inl ⟨by decide, rfl, rfl⟩⟩
  | noDeficit due auth full => exact ⟨rfl, .inl ⟨by decide, rfl, rfl⟩⟩
  | paymentFailed due auth short refused => exact ⟨rfl, .inl ⟨by decide, rfl, rfl⟩⟩
  | toppedUp due auth short shifted payable pulled approved topped =>
    obtain ⟨_, _, block₁, postage₁⟩ := pull_frame pulled
    obtain ⟨_, _, block₂, postage₂⟩ := approve_frame approved
    have raised := topUp_raised documented topped
    rw [postage₂, postage₁] at raised
    exact ⟨(topUp_frame topped).2.2.trans (block₂.trans block₁), .inr ⟨rfl, _, due, raised⟩⟩

/-! ## Calls -/

/-- Every call but `createVolume`. -/
def Call.NotCreate (call : Call) : Prop :=
  ∀ chunkSigner depth bucketDepth ttlExpiry immutableBatch,
    call ≠ .createVolume chunkSigner depth bucketDepth ttlExpiry immutableBatch

/-- The volume whose payment an event reports. -/
def Event.paidFor : Event → Option Bytes32
  | .volumeCreated volumeId .. | .toppedup volumeId .. => some volumeId
  | _ => none

/-- How a call that did not revert reached BZZ and PostageStamp: not at all, by
creating a batch, or by trigger steps, which an import runs after its registration. -/
inductive Reach (d : Deployment T P) (msg : Msg) (w : World T P) :
    Call → Option Bytes32 → World T P → Prop
  | inside {call : Call} {value : Option Bytes32} {w' : World T P} {events : List Event}
      (other : call.NotCreate) (steps : call.steps d msg w = []) (block : w'.block = w.block)
      (bzz : w'.bzz = w.bzz) (postage : w'.postage = w.postage)
      (trace : Trace (Effect d msg) w events w') (unpaid : ∀ e ∈ events, e.paidFor = none) :
      Reach d msg w call value w'
  | created {chunkSigner : Address} {depth bucketDepth : UInt8} {ttlExpiry : UInt64}
      {immutableBatch : Bool} {id : Bytes32} {w' : World T P}
      (ok : createVolume d msg w chunkSigner depth bucketDepth ttlExpiry immutableBatch =
        .ok (id, w')) :
      Reach d msg w (.createVolume chunkSigner depth bucketDepth ttlExpiry immutableBatch) (some id)
        w'
  | stepped {call : Call} {value : Option Bytes32} {w' v : World T P} {ids : List Bytes32}
      {events : List Event} (other : call.NotCreate)
      (steps : call.steps d msg w = triggerSteps d msg v ids)
      (before : Trace (Effect d msg) w events v) (block : v.block = w.block) (bzz : v.bzz = w.bzz)
      (postage : v.postage = w.postage) (ok : triggerMany d msg v ids = .ok w')
      (unpaid : ∀ e ∈ events, e.paidFor = none) : Reach d msg w call value w'

theorem triggerMany_single {id : Bytes32} {outcome : TriggerOutcome}
    (ok : triggerOne d msg w id = .ok (outcome, w')) : triggerMany d msg w [id] = .ok w' := by
  simp only [triggerMany, trigger, ok]
  rfl

theorem execute_reach {call : Call} {value : Option Bytes32}
    (ok : execute d msg w call = .ok (value, w')) : Reach d msg w call value w' := by
  cases call with
  | designateFundingWallet payer =>
    cases ok
    exact .inside (by simp [Call.NotCreate]) rfl rfl rfl rfl (.single (.designated payer)) (by simp [Event.paidFor])
  | confirmAuth owner =>
    obtain ⟨_, ok, same⟩ := map_success ok
    cases same
    have effect : Effect d _ _ _ _ := confirmAuth_effect ok
    cases effect with
    | activated owner named =>
      exact .inside (by simp [Call.NotCreate]) rfl rfl rfl rfl (.single (.activated owner named)) (by simp [Event.paidFor])
  | revoke owner =>
    obtain ⟨_, ok, same⟩ := map_success ok
    cases same
    have effect : Effect d _ _ _ _ := revoke_effect ok
    cases effect with
    | revoked owner allowed =>
      exact .inside (by simp [Call.NotCreate]) rfl rfl rfl rfl (.single (.revoked owner allowed)) (by simp [Event.paidFor])
  | createVolume chunkSigner depth bucketDepth ttlExpiry immutableBatch =>
    obtain ⟨⟨id, left⟩, ok, same⟩ := map_success ok
    cases same
    exact .created ok
  | registerVolume batchId ttlExpiry =>
    obtain ⟨⟨id, left⟩, ok, same⟩ := map_success ok
    cases same
    have effect : Effect d _ _ _ _ := registerBatch_effect ok
    cases effect with
    | imported auth live deep recorded =>
      exact .inside (by simp [Call.NotCreate]) rfl rfl rfl rfl (.single (.imported auth live deep recorded))
        (by simp [Event.paidFor])
  | importVolume batchId ttlExpiry =>
    obtain ⟨⟨id, left⟩, ok, same⟩ := map_success ok
    cases same
    obtain ⟨registered, outcome, first, second, _⟩ := importVolume_success ok
    have effect := registerBatch_effect first
    have steps : Call.steps d msg w (.importVolume batchId ttlExpiry) =
        triggerSteps d msg registered [id] := by
      simp only [Call.steps, first]
    have outside : registered.block = w.block ∧ registered.bzz = w.bzz ∧
        registered.postage = w.postage := by
      cases effect with
      | imported auth live deep recorded => exact ⟨rfl, rfl, rfl⟩
    exact .stepped (by simp [Call.NotCreate]) steps (.single effect) outside.1 outside.2.1 outside.2.2
      (triggerMany_single second) (by simp [Event.paidFor])
  | deleteVolume id =>
    obtain ⟨_, ok, same⟩ := map_success ok
    cases same
    have effect : Effect d _ _ _ _ := (deleteVolume_effect ok).2
    cases effect with
    | retired active retired named =>
      exact .inside (by simp [Call.NotCreate]) rfl rfl rfl rfl (.single (.retired active retired named))
        (by simp [Event.paidFor])
  | trigger id =>
    obtain ⟨_, ok, same⟩ := map_success ok
    cases same
    obtain ⟨outcome, one⟩ := trigger_success ok
    have steps : Call.steps d msg w (.trigger id) = triggerSteps d msg w [id] := rfl
    exact .stepped (by simp [Call.NotCreate]) steps .nil rfl rfl rfl (triggerMany_single one) (by simp)
  | triggerMany ids =>
    obtain ⟨_, ok, same⟩ := map_success ok
    cases same
    exact .stepped (by simp [Call.NotCreate]) rfl .nil rfl rfl rfl ok (by simp)
  | reap id =>
    obtain ⟨_, ok, same⟩ := map_success ok
    cases same
    have ended : _ ∨ (_ ∧ Effect d _ _ _ _) := reap_effect ok
    rcases ended with rfl | ⟨_, effect⟩
    · exact .inside (by simp [Call.NotCreate]) rfl rfl rfl rfl .nil (by simp)
    · cases effect with
      | retired active retired named =>
        exact .inside (by simp [Call.NotCreate]) rfl rfl rfl rfl (.single (.retired active retired named))
          (by simp [Event.paidFor])

/-! ## Payers -/

/-- An active account's payer has confirmed, so it can send calls. -/
def ExternalPayers (d : Deployment T P) (s : Storage) : Prop :=
  ∀ o, (s.accounts o).active = true → External d (s.accounts o).payer

theorem ExternalPayers.step {sender : Address} {s s' : Storage} {e : Event}
    (payers : ExternalPayers d s) (external : External d sender)
    (step : StoreStep d sender s e s') : ExternalPayers d s' := by
  cases step with
  | designated payer => exact payers
  | activated owner named =>
    intro o
    rw [Storage.setAccount_accounts]
    split
    · exact fun _ => external
    · exact payers o
  | revoked owner allowed =>
    intro o
    rw [Storage.setAccount_accounts]
    split
    · exact fun active => absurd active Bool.false_ne_true
    · exact payers o
  | @admitted _ a timestamp nextNonce announced owner auth named unused =>
    intro o
    rw [Storage.enter_accounts]
    split
    · exact payers o
    · exact payers o
  | retired active retired =>
    rw [ExternalPayers, (Storage.retire_frame retired).1]
    exact payers
  | toppedUp active => exact payers
  | skipped guarded => exact payers

theorem ExternalPayers.trace {events : List Event} (payers : ExternalPayers d w.store)
    (external : External d msg.sender) (trace : Trace (Effect d msg) w events w') :
    ExternalPayers d w'.store :=
  (Effect.trace_store trace).1.invariant (ExternalPayers d) payers
    fun _ _ _ step held => held.step external step

theorem run_payers {outside : World T P → World T P → Prop} {w₀ : World T P}
    {es : List (Entry T P)} (deployed : Deployed d w₀) (run : Run d outside w₀ es w) :
    ExternalPayers d w.store := by
  refine run.invariant_events deployed (fun _ => ExternalPayers d) ?_ ?_
  · intro o active
    exact absurd active Bool.false_ne_true
  · intro _ sender s e s' external step held
    exact held.step external step

/-! ## Charges -/

/-- An amount taken from `payer` for a volume of `owner`. -/
structure Charge where
  owner : Address
  payer : Address
  amount : Nat
  deriving DecidableEq, Repr

/-- What a step takes: the deficit of the batch for every chunk when it was topped
up, nothing otherwise. -/
def TriggerStep.charge (d : Deployment T P) (step : TriggerStep T P) : Option Charge :=
  let s := step.before.store
  let v := s.volumes step.volumeId
  let outpayment := (d.stamp.currentTotalOutPayment step.before.block step.before.postage).getD 0
  if step.outcome = .toppedUp then
    some ⟨v.owner, (s.accounts v.owner).payer,
      d.deficit step.before.postage v outpayment * 2 ^ v.depth.toNat⟩
  else none

/-- What a call takes. -/
def Call.charges (d : Deployment T P) (msg : Msg) (w : World T P) : Call → List Charge
  | .createVolume _ depth _ _ _ =>
    [⟨msg.sender, (w.store.accounts msg.sender).payer, d.target w.postage * 2 ^ depth.toNat⟩]
  | call => (call.steps d msg w).filterMap (TriggerStep.charge d)

theorem Call.NotCreate.charges {call : Call} (other : call.NotCreate) :
    call.charges d msg w = (call.steps d msg w).filterMap (TriggerStep.charge d) := by
  cases call with
  | createVolume => exact (other _ _ _ _ _ rfl).elim
  | _ => rfl

/-- The sum a list of charges takes from `a`. -/
def taken (a : Address) (charges : List Charge) : Nat :=
  ((charges.filter fun c => c.payer = a).map Charge.amount).sum

def total (charges : List Charge) : Nat := (charges.map Charge.amount).sum

@[simp] theorem taken_nil (a : Address) : taken a [] = 0 := rfl
@[simp] theorem total_nil : total [] = 0 := rfl

theorem taken_append (a : Address) (first second : List Charge) :
    taken a (first ++ second) = taken a first + taken a second := by
  simp [taken]

theorem total_append (first second : List Charge) :
    total (first ++ second) = total first + total second := by
  simp [total]

/-- Every balance moved by exactly the charges: down by what was taken, and up at
PostageStamp by the total; the registry's own did not move. -/
structure Settled (d : Deployment T P) (w w' : World T P) (charges : List Charge) :
    Prop where
  payers : ∀ a, a ≠ d.address → a ≠ d.postage →
    d.token.balanceOf w'.bzz a + taken a charges = d.token.balanceOf w.bzz a
  postage : d.token.balanceOf w'.bzz d.postage = d.token.balanceOf w.bzz d.postage + total charges
  registry : d.token.balanceOf w'.bzz d.address = d.token.balanceOf w.bzz d.address
  allowance : d.token.allowance w.bzz d.address d.postage = 0 →
    d.token.allowance w'.bzz d.address d.postage = 0

theorem Settled.of_same (same : w'.bzz = w.bzz) : Settled d w w' [] := by
  refine ⟨fun a _ _ => ?_, ?_, ?_, fun zero => ?_⟩
  · rw [same]
    rfl
  · rw [same]
    rfl
  · rw [same]
  · rw [same]
    exact zero

theorem Settled.append {w'' : World T P} {first second : List Charge}
    (one : Settled d w w' first) (two : Settled d w' w'' second) :
    Settled d w w'' (first ++ second) := by
  refine ⟨fun a notRegistry notPostage => ?_, ?_, two.registry.trans one.registry,
    fun zero => two.allowance (one.allowance zero)⟩
  · have before := one.payers a notRegistry notPostage
    have after := two.payers a notRegistry notPostage
    rw [taken_append]
    omega
  · rw [two.postage, one.postage, total_append, Nat.add_assoc]

/-- A payment settles its own charge. -/
theorem Paid.settled (documented : d.Documented) {payer : Address} {amount : Nat}
    (paid : Paid d w w' payer amount) (external : External d payer)
    (finite : amount ≠ Word.unlimited) (owner : Address) :
    Settled d w w' [⟨owner, payer, amount⟩] := by
  obtain ⟨funded, fromPayer, toPostage, others, allowance⟩ :=
    paid.passed.settled documented.token.toStandard external.notRegistry documented.apart
      external.notPostage finite
  refine ⟨fun a notRegistry notPostage => ?_, ?_, ?_, fun _ => allowance⟩
  · by_cases same : payer = a
    · subst same
      simp only [taken, List.filter_cons, decide_true, if_true, List.filter_nil, List.map_cons,
        List.map_nil, List.sum_cons, List.sum_nil]
      omega
    · rw [others a (Ne.symm same) notPostage]
      simp [taken, same]
  · rw [toPostage]
    simp [total]
  · exact others d.address (Ne.symm external.notRegistry) documented.apart

/-- A charge is a multiple of a power of two by less than 2^128, so it is never
the largest word, which an allowance would not count down. -/
theorem charge_finite {perChunk : Nat} (small : perChunk < 2 ^ 128) (depth : Nat) :
    perChunk * 2 ^ depth ≠ Word.unlimited :=
  Word.mul_two_pow_ne_unlimited (small.trans (by decide)) depth

theorem Deployment.deficit_lt (d : Deployment T P) (postage : P) (v : Volume) (outpayment : Nat) :
    d.deficit postage v outpayment < 2 ^ 128 :=
  lt_of_le_of_lt (Nat.sub_le _ _) (d.target_lt postage)

end SwarmVolumes.Source
