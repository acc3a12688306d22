import SwarmVolumes.Source.Registry.Payments
import SwarmVolumes.Guarantees.ActiveSet

/-!
# Keeper endpoints do not revert

From every state a registry reaches, `trigger`, its batched form and `reap`
return normally, whatever the volumes, payers and batches are like (ADR-0007).
`Ready` collects what the trigger steps rely on; each step finds it and leaves it.
-/
namespace SwarmVolumes.Guarantees.KeeperLiveness
open Library Source Source.Reference ActiveSet

variable {T P : Type} {d : Deployment T P} {w w' : World T P}

/-- Every recorded depth is above a minimum. -/
def Deep (minimum : UInt8) (s : Storage) : Prop :=
  ∀ id, (s.volumes id).status ≠ .none → minimum < (s.volumes id).depth

theorem Deep.quiet {minimum : UInt8} {s s' : Storage} {sender : Address} {e : Event}
    (deep : Deep minimum s) (silent : e.admission = none) (step : StoreStep d sender s e s') :
    Deep minimum s' := by
  intro id known
  obtain ⟨status, written⟩ := (step_quiet silent step).2 id
  have depth : (s'.volumes id).depth = (s.volumes id).depth := congrArg (·.2.2.2.2.2) written
  rw [depth]
  exact deep id fun none => known (status.mpr none)

theorem Deep.enter {minimum : UInt8} {s : Storage} (deep : Deep minimum s) (a : Admission)
    (above : minimum < a.depth) (timestamp : Nat) : Deep minimum (s.enter a timestamp) := by
  intro id
  rw [Storage.enter_volumes]
  split
  · exact fun _ => above
  · exact deep id

/-- Every live batch can be raised to the target without leaving a word. -/
def Small (d : Deployment T P) (postage : P) (outpayment : Nat) : Prop :=
  ∀ id, outpayment < (d.stamp.batches postage id).normalisedBalance →
    let deficit := d.target postage - ((d.stamp.batches postage id).normalisedBalance - outpayment)
    (d.stamp.batches postage id).normalisedBalance + deficit < Word.modulus ∧
    deficit * 2 ^ (d.stamp.batches postage id).depth.toNat < Word.modulus

/-- PostageStamp as the keeper finds it. -/
structure Open (d : Deployment T P) (block : Block) (postage : P) (outpayment : Nat) : Prop where
  running : d.stamp.paused postage = false
  validity : d.stamp.minimumValidityBlocks postage ≤ d.graceBlocks
  read : d.stamp.currentTotalOutPayment block postage = some outpayment
  small : Small d postage outpayment

/-- What the contracts outside promise: who can pay does, and PostageStamp takes
what its checks allow. -/
structure Cooperative (d : Deployment T P) : Prop extends d.Documented where
  getter : d.bzzPermitExpiry = true → ∃ expirations, d.token.expirations = some expirations
  wired : d.postage ≠ 0
  pays : d.token.Pays d.bzzPermitExpiry
  accepts : d.stamp.Accepts d.token d.postage

structure Ready (d : Deployment T P) (w : World T P) (outpayment : Nat) : Prop where
  represented : Represented w.store
  payers : ExternalPayers d w.store
  deep : Deep (d.stamp.minimumBucketDepth w.postage) w.store
  openOffice : Open d w.block w.postage outpayment

/-! ## One payment -/

/-- A precheck that passed implies the pull. -/
theorem pull_total (coop : Cooperative d) (msg : Msg) {payer : Address} {amount : Nat}
    (external : External d payer) (payable : canPull d w payer amount = .ok true) :
    ∃ w₁, pull d msg w payer amount = .ok w₁ ∧
      amount ≤ d.token.balanceOf w₁.bzz d.address := by
  obtain ⟨funded, allowed, current⟩ := canPull_true payable
  obtain ⟨t, logs, pulled⟩ := coop.pays.transferFrom_succeeds external.notZero coop.located
    external.notRegistry.symm funded allowed current
  have moves := (coop.token.moves external.notRegistry pulled).2
  refine ⟨{ w with bzz := t }.absorb msg logs, ?_, ?_⟩
  · rw [pull, pulled]
    rfl
  · change amount ≤ d.token.balanceOf t d.address
    rw [moves, Erc20.moved, if_neg (Ne.symm external.notRegistry), if_pos rfl]
    exact Nat.le_add_left _ _

/-- The approval, and the allowance PostageStamp then finds. -/
theorem approve_total (coop : Cooperative d) (msg : Msg) {amount : Nat} (word : amount < Word.modulus) :
    ∃ w₂, approve d msg w amount = .ok w₂ ∧
      d.token.balanceOf w₂.bzz d.address = d.token.balanceOf w.bzz d.address ∧
      d.token.allowance w₂.bzz d.address d.postage = amount := by
  obtain ⟨t, logs, approved⟩ := coop.pays.approve_succeeds coop.located coop.wired word
  refine ⟨{ w with bzz := t }.absorb msg logs, ?_, coop.token.keeps approved _, ?_⟩
  · rw [approve, approved]
    rfl
  · exact (coop.token.approves approved _ _).trans (if_pos ⟨rfl, rfl⟩)

/-- The top-up: every check of PostageStamp follows from what the registry read. -/
theorem topUp_total (coop : Cooperative d) (msg : Msg) {v : Volume} {outpayment amount : Nat}
    (office : Open d w.block w.postage outpayment)
    (due : Due d w v outpayment)
    (deep : d.stamp.minimumBucketDepth w.postage < v.depth)
    (product : amount = d.deficit w.postage v outpayment * 2 ^ v.depth.toNat)
    (finite : amount ≠ Word.unlimited)
    (funded : amount ≤ d.token.balanceOf w.bzz d.address)
    (allowed : d.token.allowance w.bzz d.address d.postage = amount) :
    ∃ w₃, topUp d msg w v.batchId (d.deficit w.postage v outpayment) = .ok w₃ := by
  have depth : (d.stamp.batches w.postage v.batchId).depth = v.depth := due.depth
  have cost : batchCost (d.deficit w.postage v outpayment)
      (d.stamp.batches w.postage v.batchId).depth = amount := by
    rw [depth, product, batchCost]
  obtain ⟨fits, affordable⟩ := office.small v.batchId due.alive
  have enough : (d.stamp.minimumValidityBlocks w.postage).toNat * (d.stamp.lastPrice w.postage).toNat ≤
      (d.stamp.batches w.postage v.batchId).normalisedBalance - outpayment +
        d.deficit w.postage v outpayment := by
    have covered : (d.stamp.minimumValidityBlocks w.postage).toNat *
        (d.stamp.lastPrice w.postage).toNat ≤ d.target w.postage := by
      rw [Deployment.target, Nat.mul_comm]
      exact Nat.mul_le_mul_left _ (UInt64.le_iff_toNat_le.mp office.validity)
    unfold Deployment.deficit Deployment.remaining Deployment.batchOf
    omega
  obtain ⟨t, logs, forwarded⟩ : ∃ t logs, d.token.transferFrom w.block.timestamp w.bzz d.postage
      d.address d.postage (batchCost (d.deficit w.postage v outpayment)
        (d.stamp.batches w.postage v.batchId).depth) = some (true, t, logs) := by
    rw [cost]
    exact coop.pays.transferFrom_succeeds coop.located coop.wired coop.apart.symm funded
      allowed.ge fun _ whole => absurd (allowed.symm.trans whole) finite
  obtain ⟨reply, called⟩ := coop.accepts.topUp_succeeds office.running due.present due.read due.alive
    (by rw [depth]; exact deep) enough fits affordable forwarded
  exact ⟨_, by rw [topUp, called]; rfl⟩

/-- A volume is due as long as the block and PostageStamp stay. -/
theorem due_congr {v : Volume} {outpayment : Nat} (block : w'.block = w.block)
    (postage : w'.postage = w.postage) (due : Due d w v outpayment) : Due d w' v outpayment := by
  obtain ⟨⟨read, present, alive⟩, active, owner, depth, unexpired⟩ := due
  refine ⟨⟨?_, ?_, ?_⟩, active, ?_, ?_, ?_⟩
  · rwa [block, postage]
  · rwa [postage]
  · rwa [postage]
  · rwa [postage]
  · rwa [postage]
  · rwa [block]

/-- Steps 7 and 8 do not revert. -/
theorem payDeficit_total (coop : Cooperative d) (msg : Msg) {id : Bytes32} {v : Volume} {outpayment : Nat}
    {payer : Address} (office : Open d w.block w.postage outpayment) (due : Due d w v outpayment)
    (deep : d.stamp.minimumBucketDepth w.postage < v.depth) (external : External d payer) :
    ∃ r, payDeficit d msg w id v payer (d.batchOf w.postage v).normalisedBalance
      (d.deficit w.postage v outpayment) = .ok r := by
  obtain ⟨fits, affordable⟩ := office.small v.batchId due.alive
  have depth : (d.stamp.batches w.postage v.batchId).depth = v.depth := due.depth
  rw [depth] at affordable
  obtain ⟨payable, checked⟩ := canPull_total (w := w) coop.getter payer
    (Word.shl (d.deficit w.postage v outpayment) v.depth.toNat)
  unfold payDeficit
  dsimp only
  rw [checked, ok_bind]
  cases payable with
  | false => exact ⟨_, rfl⟩
  | true =>
    have product : Word.shl (d.deficit w.postage v outpayment) v.depth.toNat =
        d.deficit w.postage v outpayment * 2 ^ v.depth.toNat := Word.shl_exact affordable
    obtain ⟨w₁, pulled, funded⟩ := pull_total coop msg external checked
    obtain ⟨w₂, approved, kept, allowed⟩ := approve_total (w := w₁) coop msg
      (Word.shl_lt (d.deficit w.postage v outpayment) v.depth.toNat)
    obtain ⟨_, _, block₁, postage₁⟩ := pull_frame pulled
    obtain ⟨_, _, block₂, postage₂⟩ := approve_frame approved
    have block := block₂.trans block₁
    have postage := postage₂.trans postage₁
    have finite : Word.shl (d.deficit w.postage v outpayment) v.depth.toNat ≠ Word.unlimited := by
      rw [product]
      exact charge_finite (d.deficit_lt w.postage v outpayment) _
    obtain ⟨w₃, topped⟩ := topUp_total (w := w₂) coop msg (by rwa [block, postage])
      (due_congr block postage due) (by rwa [postage]) (by rw [postage]; exact product) finite
      (by rwa [kept]) allowed
    rw [postage] at topped
    have added : Word.add? (d.batchOf w.postage v).normalisedBalance
        (d.deficit w.postage v outpayment) =
        some ((d.batchOf w.postage v).normalisedBalance + d.deficit w.postage v outpayment) :=
      Word.add?_eq_some.mpr ⟨fits, rfl⟩
    rw [if_neg (by simp), pulled, ok_bind, approved, ok_bind, topped, ok_bind, added,
      orRevert_some, ok_bind]
    exact ⟨_, rfl⟩

/-- The trigger steps do not revert. -/
theorem triggerOne_total (coop : Cooperative d) (msg : Msg) {outpayment : Nat} (ready : Ready d w outpayment)
    (id : Bytes32) : ∃ r, triggerOne d msg w id = .ok r := by
  by_cases active : (w.store.volumes id).status = .active
  · have gone : ∀ reason, ∃ r, retired msg w id reason = .ok r := by
      intro reason
      obtain ⟨store, stored, _⟩ := ready.represented.retire active
      exact ⟨_, retired_of_stored stored⟩
    have deep := ready.deep id (by rw [active]; decide)
    have read := ready.openOffice.read
    by_cases dead : (d.stamp.batches w.postage (w.store.volumes id).batchId).owner = 0 ∨
        (d.stamp.batches w.postage (w.store.volumes id).batchId).normalisedBalance ≤ outpayment
    · unfold triggerOne
      dsimp only
      rw [if_neg (not_not.mpr active), read, orRevert_some, ok_bind, if_pos dead]
      exact gone _
    · have live : Live d w (w.store.volumes id).batchId outpayment :=
        ⟨read, (not_or.mp dead).1, Nat.not_le.mp (not_or.mp dead).2⟩
      by_cases owner : (d.batchOf w.postage (w.store.volumes id)).owner =
          (w.store.volumes id).chunkSigner
      · by_cases depth : (d.batchOf w.postage (w.store.volumes id)).depth =
            (w.store.volumes id).depth
        · rw [triggerOne_of_live active live owner depth]
          split
          · exact gone _
          · rename_i unexpired
            have due : Due d w (w.store.volumes id) outpayment :=
              ⟨live, active, owner, depth, unexpired⟩
            cases auth : (w.store.accounts (w.store.volumes id).owner).active with
            | false =>
              unfold settleDeficit
              dsimp only
              rw [if_pos auth]
              exact ⟨_, rfl⟩
            | true =>
              have alive : outpayment <
                  (d.batchOf w.postage (w.store.volumes id)).normalisedBalance := live.alive
              rw [settleDeficit_of_auth auth alive]
              split
              · exact ⟨_, rfl⟩
              · exact payDeficit_total coop msg ready.openOffice due deep (ready.payers _ auth)
        · unfold Deployment.batchOf at owner depth
          unfold triggerOne
          dsimp only
          rw [if_neg (not_not.mpr active), read, orRevert_some, ok_bind, if_neg dead,
            if_neg (not_not.mpr owner), if_pos depth]
          exact gone _
      · unfold Deployment.batchOf at owner
        unfold triggerOne
        dsimp only
        rw [if_neg (not_not.mpr active), read, orRevert_some, ok_bind, if_neg dead, if_pos owner]
        exact gone _
  · unfold triggerOne
    dsimp only
    rw [if_pos active]
    exact ⟨_, rfl⟩

/-! ## Readiness lasts -/

/-- A raised batch is at target, so it stays small. -/
theorem Open.raised {block : Block} {p p' : P} {v : Volume} {outpayment : Nat}
    (office : Open d block p outpayment) (alive : outpayment < (d.batchOf p v).normalisedBalance)
    (raised : Raised d p p' v.batchId (d.deficit p v outpayment)) : Open d block p' outpayment := by
  refine ⟨raised.paused.trans office.running, by rw [raised.validity]; exact office.validity,
    (raised.outpayment block).trans office.read, fun id living => ?_⟩
  rw [raised.target]
  by_cases same : id = v.batchId
  · subst same
    obtain ⟨fits, _⟩ := office.small v.batchId alive
    have covered : d.target p - ((d.stamp.batches p' v.batchId).normalisedBalance - outpayment) = 0 := by
      rw [raised.balance]
      unfold Deployment.deficit Deployment.remaining Deployment.batchOf
      unfold Deployment.batchOf at alive
      omega
    rw [covered, raised.balance]
    exact ⟨fits, by rw [Nat.zero_mul]; exact Nat.two_pow_pos 256⟩
  · rw [raised.others id same] at living ⊢
    exact office.small id living

theorem Ready.step (documented : d.Documented) {msg : Msg} {outpayment : Nat}
    (ready : Ready d w outpayment) (external : External d msg.sender) {id : Bytes32}
    {outcome : TriggerOutcome} (ok : triggerOne d msg w id = .ok (outcome, w')) :
    Ready d w' outpayment := by
  obtain ⟨events, trace, about⟩ := triggerOne_effects ok
  obtain ⟨block, outside⟩ := triggerOne_outside documented ok
  have depths : d.stamp.minimumBucketDepth w'.postage = d.stamp.minimumBucketDepth w.postage := by
    rcases outside with ⟨_, same, _⟩ | ⟨_, _, _, raised⟩
    · rw [same]
    · exact raised.bucketDepth
  refine ⟨ready.represented.triggerOne ok, ready.payers.trace external trace, ?_, ?_⟩
  · rw [depths]
    exact ((Effect.trace_store trace).1.restrict about).invariant
      (Deep (d.stamp.minimumBucketDepth w.postage)) ready.deep
      fun _ _ _ taken held => held.quiet (triggerOf_admission taken.2) taken.1
  · rw [block]
    rcases outside with ⟨_, same, _⟩ | ⟨_, out, due, raised⟩
    · rw [same]
      exact ready.openOffice
    · obtain rfl := Option.some.inj (due.read.symm.trans ready.openOffice.read)
      exact ready.openOffice.raised due.alive raised

/-- A batch of triggers goes through to its end. -/
theorem triggerMany_total (coop : Cooperative d) {msg : Msg} (external : External d msg.sender)
    {outpayment : Nat} (ids : List Bytes32) (ready : Ready d w outpayment) :
    (∃ w', triggerMany d msg w ids = .ok w') ∧
    (triggerSteps d msg w ids).map TriggerStep.volumeId = ids := by
  induction ids generalizing w with
  | nil => exact ⟨⟨w, rfl⟩, rfl⟩
  | cons id ids ih =>
    obtain ⟨⟨outcome, mid⟩, one⟩ := triggerOne_total coop msg ready id
    obtain ⟨⟨w', rest⟩, steps⟩ := ih (ready.step coop.toDocumented external one)
    refine ⟨⟨w', ?_⟩, ?_⟩
    · rw [triggerMany, trigger, one, ok_bind, ok_bind, rest]
    · simp only [triggerSteps, one, List.map_cons, steps]

/-- How `reap` ends: a volume that is Active past its TTL is retired, and otherwise nothing
changes. -/
structure Reaped (d : Deployment T P) (msg : Msg) (w : World T P) (id : Bytes32) (w' : World T P) :
    Prop where
  expired : (w.store.volumes id).status = .active → (w.store.volumes id).Expired w.block.timestamp →
    Effect d msg w (.volumeRetired id .volumeExpired) w' ∧ (w'.store.volumes id).status = .retired
  other : ¬ ((w.store.volumes id).status = .active ∧ (w.store.volumes id).Expired w.block.timestamp) →
    w' = w

theorem reap_total (msg : Msg) (represented : Represented w.store) (id : Bytes32) :
    ∃ w', reap msg w id = .ok w' ∧ Reaped d msg w id w' := by
  unfold reap
  dsimp only
  split
  · rename_i idle
    exact ⟨w, rfl, fun active => absurd active idle, fun _ => rfl⟩
  · rename_i active
    rw [not_not] at active
    split
    · rename_i expired
      obtain ⟨store, stored, _⟩ := represented.retire active
      have status := ((Storage.retire_frame stored).2.2.1 id).2
      rw [if_pos rfl] at status
      rw [retire, stored, ok_bind]
      refine ⟨_, rfl, fun _ _ => ⟨.retired active stored (by decide), status⟩, fun neither => ?_⟩
      exact absurd ⟨active, expired⟩ neither
    · rename_i current
      exact ⟨w, rfl, fun _ expired => absurd expired current, fun _ => rfl⟩

/-- Between calls PostageStamp keeps its minimum bucket depth. -/
def keepsDepth (d : Deployment T P) (w w' : World T P) : Prop :=
  d.stamp.minimumBucketDepth w'.postage = d.stamp.minimumBucketDepth w.postage

/-- Every recorded depth was above the minimum when it was recorded, and still is. -/
theorem deep_effect (documented : d.Documented) {msg : Msg} {e : Event}
    (deep : Deep (d.stamp.minimumBucketDepth w.postage) w.store) (effect : Effect d msg w e w') :
    Deep (d.stamp.minimumBucketDepth w'.postage) w'.store := by
  have step := effect.store.1
  cases effect with
  | designated payer => exact deep
  | activated owner named => exact deep
  | revoked owner allowed => exact deep
  | created auth signer shifted pulled approved made recorded =>
    have store := (approve_frame approved).1.trans (pull_frame pulled).1
    have postage := (approve_frame approved).2.2.2.trans (pull_frame pulled).2.2.2
    obtain ⟨reply, called, rfl⟩ := createBatch_success made
    obtain ⟨above, kept⟩ := documented.stamp.createBatch_deep called
    obtain ⟨_, _, rfl⟩ := Storage.recordVolume_success recorded
    rw [← postage, ← kept] at deep
    rw [← kept] at above
    refine Deep.enter ?_ _ above _
    rw [World.absorb_store, store]
    exact deep
  | imported auth live above recorded =>
    obtain ⟨_, _, rfl⟩ := Storage.recordVolume_success recorded
    exact deep.enter _ above _
  | retired active retired => exact deep.quiet rfl step
  | toppedUp due auth shifted pulled approved topped =>
    have postage := (approve_frame approved).2.2.2.trans (pull_frame pulled).2.2.2
    have depths := (topUp_raised documented topped).bucketDepth
    rw [postage] at depths
    rw [World.emit_postage, depths]
    exact deep.quiet rfl step
  | skipped guarded => exact deep

variable {w₀ w₁ : World T P} {es : List (Entry T P)}

theorem run_deep (documented : d.Documented) (deployed : Deployed d w₀)
    (run : Run d (keepsDepth d) w₀ es w) :
    Deep (d.stamp.minimumBucketDepth w.postage) w.store := by
  refine run.invariant_effects (fun w => Deep (d.stamp.minimumBucketDepth w.postage) w.store)
    ?_ ?_ fun msg w e w' _ effect held => deep_effect documented held effect
  · rw [deployed.store]
    exact fun id known => absurd rfl known
  · intro w w' same kept held
    rw [same.store, kept]
    exact held

/-- Keeper endpoints never revert on state: after every run, whatever others did
since, `trigger`, the batched `trigger` and `reap` return normally for every caller
and every list of IDs. The world they leave is reached by one trigger step for each ID of
the list, in its order, or by what `reap` does to the volume. -/
theorem keeper_endpoints_total (documented : d.Documented)
    (pays : d.token.Pays d.bzzPermitExpiry) (accepts : d.stamp.Accepts d.token d.postage)
    (deployed : Deployed d w₀) (run : Run d (keepsDepth d) w₀ es w₁)
    (few : ∀ e ∈ es, Few e.before.store) (idle : Idle w₁ w) (moved : keepsDepth d w₁ w)
    {outpayment : Nat} (office : Open d w.block w.postage outpayment) (msg : Msg)
    (external : External d msg.sender) :
    (∀ id, ∃ w', execute d msg w (.trigger id) = .ok (none, w') ∧
      Trace (Ran d) w ((Call.trigger id).steps d msg w) w' ∧
      ((Call.trigger id).steps d msg w).map TriggerStep.volumeId = [id]) ∧
    (∀ ids, ∃ w', execute d msg w (.triggerMany ids) = .ok (none, w') ∧
      Trace (Ran d) w ((Call.triggerMany ids).steps d msg w) w' ∧
      ((Call.triggerMany ids).steps d msg w).map TriggerStep.volumeId = ids) ∧
    (∀ id, ∃ w', execute d msg w (.reap id) = .ok (none, w') ∧ Reaped d msg w id w') := by
  obtain ⟨wired, _, getter, _⟩ := construct_success deployed.constructed
  have coop : Cooperative d := ⟨documented, getter, wired, pays, accepts⟩
  have ready : Ready d w outpayment := by
    refine ⟨?_, ?_, ?_, office⟩
    · rw [idle.store]
      exact (run_represented deployed run few).1
    · rw [idle.store]
      exact run_payers deployed run
    · rw [idle.store, moved]
      exact run_deep documented deployed run
  refine ⟨fun id => ?_, fun ids => ?_, fun id => ?_⟩
  · obtain ⟨_, steps⟩ := triggerMany_total coop external [id] ready
    obtain ⟨⟨outcome, left⟩, one⟩ := triggerOne_total coop msg ready id
    have ok : trigger d msg w id = .ok left := by
      rw [trigger, one]
      rfl
    exact ⟨left, by rw [execute, ok]; rfl, trigger_ran ok, steps⟩
  · obtain ⟨⟨w', ok⟩, steps⟩ := triggerMany_total coop external ids ready
    exact ⟨w', by rw [execute, ok]; rfl, triggerMany_ran ok, steps⟩
  · obtain ⟨w', ok, reaped⟩ := reap_total msg ready.represented id
    exact ⟨w', by rw [execute, ok]; rfl, reaped⟩

theorem sample_open : Open Sample.deployment Sample.enrolled.block Sample.enrolled.postage 0 := by
  refine ⟨by decide, by decide, by decide, fun id living => ?_⟩
  change 0 < (Sample.office.batches id).normalisedBalance at living
  change (Sample.office.batches id).normalisedBalance +
      (30 - ((Sample.office.batches id).normalisedBalance - 0)) < Word.modulus ∧
    (30 - ((Sample.office.batches id).normalisedBalance - 0)) *
      2 ^ (Sample.office.batches id).depth.toNat < Word.modulus
  unfold Sample.office at living ⊢
  dsimp only at living ⊢
  split at living
  · rename_i same
    rw [if_pos same]
    decide
  · cases living

theorem keeper_endpoints_total_sample : ∃ w',
    execute Sample.deployment ⟨0xD, 5⟩ Sample.enrolled
      (.triggerMany [Sample.first, Sample.second, Sample.first]) = .ok (none, w') ∧
    Trace (Ran Sample.deployment) Sample.enrolled
      ((Call.triggerMany [Sample.first, Sample.second, Sample.first]).steps Sample.deployment
        ⟨0xD, 5⟩ Sample.enrolled) w' ∧
    ((Call.triggerMany [Sample.first, Sample.second, Sample.first]).steps Sample.deployment
      ⟨0xD, 5⟩ Sample.enrolled).map TriggerStep.volumeId =
        [Sample.first, Sample.second, Sample.first] :=
  have run := Sample.enrolled_run fun _ => (rfl : keepsDepth Sample.deployment _ _)
  (keeper_endpoints_total Sample.documented bzz_pays stamp_accepts Sample.deployed run
    (few_of_count Sample.deployed run (by decide)) (.refl _) rfl sample_open ⟨0xD, 5⟩
    (by decide)).2.1 _

end SwarmVolumes.Guarantees.KeeperLiveness
