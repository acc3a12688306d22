import SwarmVolumes.Source.Registry.Payments
import SwarmVolumes.Source.Registry.Sample

/-!
# Charge correctness

Every successful call moves exactly the BZZ its formula names: from the payers it
names, to PostageStamp, with nothing left at the registry and no allowance behind.
The shifts of the source are truncating; that they are exact here is a consequence
of PostageStamp's checked product, not an assumption.
-/
namespace SwarmVolumes.Guarantees.ChargeCorrectness
open Library Source

variable {T P : Type} {d : Deployment T P} {msg : Msg} {w w' : World T P}

/-- A trigger step settles its charge. -/
theorem triggerOne_settled (documented : d.Documented) (payers : ExternalPayers d w.store)
    {id : Bytes32} {outcome : TriggerOutcome} (ok : triggerOne d msg w id = .ok (outcome, w')) :
    Settled d w w' (TriggerStep.charge d ⟨w, id, outcome, w'⟩).toList := by
  cases triggerOne_end ok with
  | idle status => exact .of_same rfl
  | retired active edge retired => exact .of_same rfl
  | noAuth due inactive => exact .of_same rfl
  | noDeficit due auth full => exact .of_same rfl
  | paymentFailed due auth short refused => exact .of_same rfl
  | @toppedUp outpayment _ _ _ _ due auth short shifted payable pulled approved topped =>
    obtain ⟨product, paid⟩ := topUp_paid documented shifted due.depth pulled approved topped
    have finite := charge_finite (d.deficit_lt w.postage (w.store.volumes id) outpayment)
      (w.store.volumes id).depth.toNat
    rw [← product] at finite
    have settled := paid.settled documented (payers _ auth) finite (w.store.volumes id).owner
    rw [product] at settled
    simp only [TriggerStep.charge, due.read, Option.getD_some, if_true, Option.toList_some]
    exact ⟨settled.payers, settled.postage, settled.registry, settled.allowance⟩

/-- A topped-up batch gains exactly the deficit for every chunk. -/
theorem triggerOne_batch (documented : d.Documented) {id : Bytes32}
    (ok : triggerOne d msg w id = .ok (.toppedUp, w')) :
    ∃ outpayment, d.stamp.currentTotalOutPayment w.block w.postage = some outpayment ∧
      (d.batchOf w'.postage (w.store.volumes id)).normalisedBalance =
        (d.batchOf w.postage (w.store.volumes id)).normalisedBalance +
          d.deficit w.postage (w.store.volumes id) outpayment := by
  cases triggerOne_end ok with
  | toppedUp due auth short shifted payable pulled approved topped =>
    obtain ⟨reply, called, rfl⟩ := topUp_success topped
    have postage := (approve_frame approved).2.2.2.trans (pull_frame pulled).2.2.2
    have grown := (documented.stamp.topUp_batch called).2.2
    rw [postage] at grown
    exact ⟨_, due.read, grown⟩

theorem triggerSteps_settled (documented : d.Documented) (payers : ExternalPayers d w.store)
    (external : External d msg.sender) {ids : List Bytes32}
    (ok : triggerMany d msg w ids = .ok w') :
    Settled d w w' ((triggerSteps d msg w ids).filterMap (TriggerStep.charge d)) := by
  induction ids generalizing w with
  | nil =>
    cases ok
    exact .of_same rfl
  | cons id ids ih =>
    obtain ⟨mid, first, rest⟩ := bind_success ok
    obtain ⟨outcome, one⟩ := trigger_success first
    obtain ⟨events, trace, _⟩ := triggerOne_effects one
    have later := ih (payers.trace external trace) rest
    simp only [triggerSteps, one, List.filterMap_cons]
    have settled := (triggerOne_settled documented payers one).append later
    cases charged : TriggerStep.charge d ⟨w, id, outcome, mid⟩ with
    | none => simpa [charged] using settled
    | some charge => simpa [charged] using settled

theorem createVolume_settled (documented : d.Documented) (payers : ExternalPayers d w.store)
    {chunkSigner : Address} {depth bucketDepth : UInt8} {ttlExpiry : UInt64}
    {immutableBatch : Bool} {id : Bytes32}
    (ok : createVolume d msg w chunkSigner depth bucketDepth ttlExpiry immutableBatch =
      .ok (id, w')) :
    Settled d w w'
      [⟨msg.sender, (w.store.accounts msg.sender).payer,
        d.target w.postage * 2 ^ depth.toNat⟩] := by
  obtain ⟨batchId, effect⟩ := createVolume_effect ok
  cases effect with
  | created auth signer shifted pulled approved made recorded =>
    obtain ⟨product, paid⟩ := createBatch_paid documented shifted pulled approved made
    have finite := charge_finite (d.target_lt w.postage) depth.toNat
    rw [← product] at finite
    have settled := paid.settled documented (payers _ auth) finite msg.sender
    rw [product] at settled
    exact ⟨settled.payers, settled.postage, settled.registry, settled.allowance⟩

/-- Every call settles its charges. -/
theorem execute_settled (documented : d.Documented) (payers : ExternalPayers d w.store)
    (external : External d msg.sender) {call : Call} {value : Option Bytes32}
    (ok : execute d msg w call = .ok (value, w')) : Settled d w w' (call.charges d msg w) := by
  cases execute_reach ok with
  | inside other steps block bzz postage =>
    rw [other.charges, steps]
    exact .of_same bzz
  | created ok => exact createVolume_settled documented payers ok
  | stepped other steps before block bzz postage ok =>
    have kept := payers.trace external before
    have settled := (Settled.of_same bzz).append (triggerSteps_settled documented kept external ok)
    rwa [List.nil_append, ← steps, ← other.charges] at settled

/-- Between calls nobody changes the allowance the registry gave PostageStamp. -/
def keepsAllowance (d : Deployment T P) (w w' : World T P) : Prop :=
  d.token.allowance w'.bzz d.address d.postage = d.token.allowance w.bzz d.address d.postage

variable {w₀ : World T P}

theorem reachable_unspent (documented : d.Documented) (deployed : Deployed d w₀)
    (fresh : d.token.allowance w₀.bzz d.address d.postage = 0)
    (reachable : Reachable d (keepsAllowance d) w₀ w) :
    ExternalPayers d w.store ∧ d.token.allowance w.bzz d.address d.postage = 0 := by
  refine reachable.invariant (fun w => ExternalPayers d w.store ∧
    d.token.allowance w.bzz d.address d.postage = 0) ⟨?_, fresh⟩ ?_ ?_
  · rw [deployed.store]
    intro o active
    exact absurd active Bool.false_ne_true
  · rintro w w' same kept ⟨payers, zero⟩
    exact ⟨by rwa [same.store], kept.trans zero⟩
  · rintro msg call w value w' external ok ⟨payers, zero⟩
    obtain ⟨events, trace, _⟩ := execute_effects ok
    exact ⟨payers.trace external trace,
      (execute_settled documented payers external ok).allowance zero⟩

/-- Charge correctness and conservation: in every reachable world every successful
call by anyone takes from each address exactly the sum of its charges, brings the
same total to PostageStamp, leaves the registry's balance and its allowance as they
were, and a topped-up batch gains exactly the deficit for every chunk. -/
theorem charges_exact (documented : d.Documented) (deployed : Deployed d w₀)
    (fresh : d.token.allowance w₀.bzz d.address d.postage = 0)
    (reachable : Reachable d (keepsAllowance d) w₀ w) (external : External d msg.sender)
    {call : Call} {value : Option Bytes32} (success : execute d msg w call = .ok (value, w')) :
    (∀ a, a ≠ d.address → a ≠ d.postage →
      d.token.balanceOf w'.bzz a + taken a (call.charges d msg w) = d.token.balanceOf w.bzz a) ∧
    d.token.balanceOf w'.bzz d.postage =
      d.token.balanceOf w.bzz d.postage + total (call.charges d msg w) ∧
    d.token.balanceOf w'.bzz d.address = d.token.balanceOf w.bzz d.address ∧
    d.token.allowance w'.bzz d.address d.postage = d.token.allowance w.bzz d.address d.postage ∧
    ∀ step ∈ call.steps d msg w, step.outcome = .toppedUp →
      ∃ outpayment,
        d.stamp.currentTotalOutPayment step.before.block step.before.postage = some outpayment ∧
        (d.batchOf step.after.postage (step.before.store.volumes step.volumeId)).normalisedBalance =
          (d.batchOf step.before.postage (step.before.store.volumes step.volumeId)).normalisedBalance +
            d.deficit step.before.postage (step.before.store.volumes step.volumeId) outpayment := by
  obtain ⟨payers, zero⟩ := reachable_unspent documented deployed fresh reachable
  have settled := execute_settled documented payers external success
  refine ⟨settled.payers, settled.postage, settled.registry,
    (settled.allowance zero).trans zero.symm, fun step member toppedUp => ?_⟩
  have ran := (steps_effects member).2
  rw [toppedUp] at ran
  exact triggerOne_batch documented ran

theorem charges_exact_sample : ∃ value w',
    execute Sample.deployment ⟨Sample.owner, 4⟩ Sample.confirmed (.importVolume Sample.batch 0) =
      .ok (value, w') ∧
    w'.bzz.balances Sample.payer + 25 * 2 ^ 20 = 2 ^ 40 := by
  obtain ⟨⟨value, w'⟩, success⟩ : ∃ r, execute Sample.deployment ⟨Sample.owner, 4⟩ Sample.confirmed
      (.importVolume Sample.batch 0) = .ok r := success_of_isOk (by decide)
  have charged := charges_exact Sample.documented Sample.deployed rfl
    (Sample.confirmed_reachable fun _ => rfl) (by decide) success
  have amount : taken Sample.payer (Call.charges Sample.deployment ⟨Sample.owner, 4⟩
      Sample.confirmed (.importVolume Sample.batch 0)) = 25 * 2 ^ 20 := by decide
  have before : Sample.confirmed.bzz.balances Sample.payer = 2 ^ 40 := by decide
  refine ⟨value, w', success, ?_⟩
  rw [← amount, ← before]
  exact charged.1 Sample.payer (by decide) (by decide)

end SwarmVolumes.Guarantees.ChargeCorrectness
