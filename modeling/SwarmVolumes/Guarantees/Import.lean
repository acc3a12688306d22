import SwarmVolumes.Source.Registry.Payments
import SwarmVolumes.Source.Registry.Reverts
import SwarmVolumes.Source.Registry.Sample

/-!
# Import

`importVolume` registers a batch and runs the trigger steps on the new volume in
one transaction. What the registration checked is what the trigger steps check
again, so of their eight ends four are left, two of which revert the import.
-/
namespace SwarmVolumes.Guarantees.Import
open Library Source

variable {T P : Type} {d : Deployment T P} {msg : Msg} {w w' registered : World T P}
  {batchId id : Bytes32} {ttlExpiry : UInt64} {outcome : TriggerOutcome}

/-- What the registration leaves for the trigger steps: the record it wrote, a live
batch it agrees with and an active account; nothing of BZZ, Postage or the block
has changed. -/
structure Registered (d : Deployment T P) (msg : Msg) (w : World T P) (batchId : Bytes32)
    (ttlExpiry : UInt64) (id : Bytes32) (outpayment : Nat) (w' : World T P) : Prop where
  named : id = d.volumeId msg.sender (w.store.accounts msg.sender).nonce
  fresh : (w.store.volumes id).status = .none
  record : w'.store.volumes id = ⟨msg.sender, (d.stamp.batches w.postage batchId).owner, batchId,
    UInt64.ofNat w.block.timestamp, ttlExpiry, (d.stamp.batches w.postage batchId).depth, .active,
    UInt32.ofNat w.store.activeVolumeIds.length⟩
  accounts : ∀ o, w'.store.accounts o = if o = msg.sender
    then { w.store.accounts o with nonce := (w.store.accounts o).nonce + 1 } else w.store.accounts o
  ids : w'.store.activeVolumeIds = w.store.activeVolumeIds ++ [id]
  bzz : w'.bzz = w.bzz
  postage : w'.postage = w.postage
  block : w'.block = w.block
  auth : (w.store.accounts msg.sender).active = true
  live : Live d w' batchId outpayment

theorem registered_of_ok (ok : registerBatch d msg w batchId ttlExpiry = .ok (id, registered)) :
    ∃ outpayment, Registered d msg w batchId ttlExpiry id outpayment registered := by
  cases registerBatch_effect ok with
  | imported auth live deep recorded =>
    obtain ⟨named, fresh, rfl⟩ := Storage.recordVolume_success recorded
    exact ⟨_, named, fresh, (Storage.enter_volumes _ _ _ _).trans (if_pos rfl),
      Storage.enter_accounts _ _ _, rfl, rfl, rfl, rfl, auth, ⟨live.read, live.present, live.alive⟩⟩

section

variable {outpayment : Nat} (reg : Registered d msg w batchId ttlExpiry id outpayment registered)

include reg

theorem Registered.liveBatch :
    Live d registered (registered.store.volumes id).batchId outpayment := by
  rw [reg.record]
  exact reg.live

theorem Registered.owner : (d.batchOf registered.postage (registered.store.volumes id)).owner =
    (registered.store.volumes id).chunkSigner := by
  rw [reg.record, Deployment.batchOf, reg.postage]

theorem Registered.depth : (d.batchOf registered.postage (registered.store.volumes id)).depth =
    (registered.store.volumes id).depth := by
  rw [reg.record, Deployment.batchOf, reg.postage]

theorem Registered.account :
    (registered.store.accounts (registered.store.volumes id).owner).active = true := by
  rw [reg.record, reg.accounts, if_pos rfl]
  exact reg.auth

theorem Registered.expired_iff : (registered.store.volumes id).Expired registered.block.timestamp ↔
    ttlExpiry ≠ 0 ∧ ttlExpiry.toNat ≤ w.block.timestamp := by
  rw [reg.record, reg.block]
  exact .rfl

/-- A past expiry retires the volume at once; the swap-and-pop of an ID just
appended cannot fail. -/
theorem Registered.expired (past : ttlExpiry ≠ 0 ∧ ttlExpiry.toNat ≤ w.block.timestamp) :
    ∃ store, triggerOne d msg registered id =
      .ok (.retired, { registered with store }.emit msg (.volumeRetired id .volumeExpired)) := by
  have bound : (registered.store.volumes id).activeIndex.toNat <
      registered.store.activeVolumeIds.length := by
    rw [reg.record, reg.ids, List.length_append]
    exact Nat.lt_succ_of_le (Nat.mod_le _ _)
  obtain ⟨store, stored⟩ := Storage.retire_total bound
  refine ⟨store, ?_⟩
  rw [triggerOne_of_live (by rw [reg.record]) reg.liveBatch reg.owner reg.depth,
    if_pos (reg.expired_iff.mpr past), retired_of_stored stored]

theorem Registered.due (current : ¬ (ttlExpiry ≠ 0 ∧ ttlExpiry.toNat ≤ w.block.timestamp)) :
    Due d registered (registered.store.volumes id) outpayment :=
  ⟨reg.liveBatch, by rw [reg.record], reg.owner, reg.depth,
    fun expired => current (reg.expired_iff.mp expired)⟩

/-- The precheck reads the payer and the clock, which the registration left alone. -/
theorem Registered.canPull (payer : Address) (amount : Nat) :
    Source.canPull d registered payer amount = Source.canPull d w payer amount := by
  unfold Source.canPull
  rw [reg.bzz, reg.block]

/-- The trigger steps of an unexpired import, in terms of the world before it. -/
theorem Registered.computed (current : ¬ (ttlExpiry ≠ 0 ∧ ttlExpiry.toNat ≤ w.block.timestamp)) :
    triggerOne d msg registered id =
      if d.target w.postage ≤ (d.stamp.batches w.postage batchId).normalisedBalance - outpayment then
        .ok (.noDeficit, registered)
      else payDeficit d msg registered id (registered.store.volumes id)
        (w.store.accounts msg.sender).payer (d.stamp.batches w.postage batchId).normalisedBalance
        (d.target w.postage -
          ((d.stamp.batches w.postage batchId).normalisedBalance - outpayment)) := by
  rw [triggerOne_of_due (reg.due current) reg.account]
  have account : (registered.store.accounts (registered.store.volumes id).owner).payer =
      (w.store.accounts msg.sender).payer := by
    rw [reg.record, reg.accounts, if_pos rfl]
  rw [account]
  unfold Deployment.deficit Deployment.remaining Deployment.batchOf
  rw [reg.record, reg.postage]

end

/-- The payment step can end only paid or refused. -/
theorem payDeficit_ends {v : Volume} {payer : Address} {balance deficit : Nat}
    (ok : payDeficit d msg w id v payer balance deficit = .ok (outcome, w')) :
    (outcome = .skipped ∧ canPull d w payer (Word.shl deficit v.depth.toNat) = .ok false ∧
      w' = w.emit msg (.topupSkipped id .paymentFailed)) ∨
    (outcome = .toppedUp ∧ canPull d w payer (Word.shl deficit v.depth.toNat) = .ok true) := by
  unfold payDeficit at ok
  obtain ⟨payable, checked, ok⟩ := bind_success ok
  split at ok
  · rename_i refused
    subst refused
    cases ok
    exact .inl ⟨rfl, checked, rfl⟩
  · rename_i accepted
    rw [Bool.not_eq_false] at accepted
    subst accepted
    obtain ⟨_, _, ok⟩ := bind_success ok
    obtain ⟨_, _, ok⟩ := bind_success ok
    obtain ⟨_, _, ok⟩ := bind_success ok
    obtain ⟨_, _, ok⟩ := bind_success ok
    cases ok
    exact .inr ⟨rfl, checked⟩

/-- `ttlExpiry` is set and has passed. -/
def Past (w : World T P) (ttlExpiry : UInt64) : Prop :=
  ttlExpiry ≠ 0 ∧ ttlExpiry.toNat ≤ w.block.timestamp

/-- The deficit of the batch, and the payer's failure to cover it. -/
def Unpaid (d : Deployment T P) (msg : Msg) (w : World T P) (batchId : Bytes32) : Prop :=
  ∃ outpayment, d.stamp.currentTotalOutPayment w.block w.postage = some outpayment ∧
    let batch := d.stamp.batches w.postage batchId
    let deficit := d.target w.postage - (batch.normalisedBalance - outpayment)
    0 < deficit ∧ canPull d w (w.store.accounts msg.sender).payer
      (Word.shl deficit batch.depth.toNat) = .ok false

/-- The four ends of the trigger steps of an import. -/
theorem import_ends {outpayment : Nat}
    (reg : Registered d msg w batchId ttlExpiry id outpayment registered)
    (ok : triggerOne d msg registered id = .ok (outcome, w')) :
    (¬ Past w ttlExpiry ∧ outcome = .toppedUp) ∨
    (¬ Past w ttlExpiry ∧ outcome = .noDeficit ∧ w' = registered) ∨
    (Past w ttlExpiry ∧ outcome = .retired ∧
      w'.events = registered.events ++ [.volumeRetired id .volumeExpired]) ∨
    (¬ Past w ttlExpiry ∧ Unpaid d msg w batchId ∧ outcome = .skipped ∧
      w'.events = registered.events ++ [.topupSkipped id .paymentFailed]) := by
  by_cases past : Past w ttlExpiry
  · obtain ⟨store, ended⟩ := reg.expired past
    cases ended.symm.trans ok
    exact .inr (.inr (.inl ⟨past, rfl, World.events_emit _ _ _⟩))
  · rw [reg.computed past] at ok
    split at ok
    · cases ok
      exact .inr (.inl ⟨past, rfl, rfl⟩)
    · rename_i short
      rcases payDeficit_ends ok with ⟨rfl, refused, rfl⟩ | ⟨rfl, _⟩
      · rw [reg.canPull, reg.record] at refused
        have read := reg.live.read
        rw [reg.block, reg.postage] at read
        exact .inr (.inr (.inr ⟨past, ⟨outpayment, read, by omega, refused⟩, rfl,
          World.events_emit _ _ _⟩))
      · exact .inl ⟨past, rfl⟩

/-- After a successful import the batch holds the target for every chunk. -/
theorem import_funded (documented : d.Documented) {outpayment : Nat}
    (reg : Registered d msg w batchId ttlExpiry id outpayment registered)
    (ok : triggerOne d msg registered id = .ok (outcome, w'))
    (settled : outcome = .toppedUp ∨ outcome = .noDeficit) :
    w'.store = registered.store ∧
    d.stamp.currentTotalOutPayment w'.block w'.postage = some outpayment ∧
    d.target w'.postage ≤ (d.stamp.batches w'.postage batchId).normalisedBalance - outpayment ∧
    (d.stamp.batches w'.postage batchId).owner = (d.stamp.batches w.postage batchId).owner ∧
    (d.stamp.batches w'.postage batchId).depth = (d.stamp.batches w.postage batchId).depth := by
  have sameBatch : (registered.store.volumes id).batchId = batchId := by rw [reg.record]
  rcases settled with rfl | rfl
  · cases triggerOne_end ok with
    | @toppedUp out _ w₁ w₂ w₃ due auth short shifted payable pulled approved topped =>
      obtain ⟨reply, called, rfl⟩ := topUp_success topped
      have store : w₂.store = registered.store :=
        (approve_frame approved).1.trans (pull_frame pulled).1
      have block : w₂.block = registered.block :=
        (approve_frame approved).2.2.1.trans (pull_frame pulled).2.2.1
      have postage : w₂.postage = registered.postage :=
        (approve_frame approved).2.2.2.trans (pull_frame pulled).2.2.2
      have same : out = outpayment := Option.some.inj (due.read.symm.trans reg.live.read)
      obtain ⟨owner, depth, balance⟩ := documented.stamp.topUp_batch called
      obtain ⟨_, outpayments, price, _⟩ := documented.stamp.topUp_frame called
      have alive := due.alive
      unfold Deployment.remaining Deployment.batchOf at short
      unfold Deployment.deficit Deployment.remaining Deployment.batchOf at balance
      rw [sameBatch] at owner depth balance short alive
      rw [postage] at owner depth balance price outpayments
      have target : d.target reply.postage = d.target registered.postage := by
        unfold Deployment.target
        rw [price]
      refine ⟨store, ?_, ?_, owner.trans (by rw [reg.postage]), depth.trans (by rw [reg.postage])⟩
      · change d.stamp.currentTotalOutPayment w₂.block reply.postage = _
        rw [outpayments, block]
        exact reg.live.read
      · change d.target reply.postage ≤
          (d.stamp.batches reply.postage batchId).normalisedBalance - outpayment
        rw [target, balance, ← same]
        omega
  · cases triggerOne_end ok with
    | @noDeficit out due auth full =>
      have same : out = outpayment := Option.some.inj (due.read.symm.trans reg.live.read)
      unfold Deployment.remaining Deployment.batchOf at full
      rw [sameBatch, same] at full
      exact ⟨rfl, reg.live.read, full, by rw [reg.postage], by rw [reg.postage]⟩

/-- Registration has errors of its own. -/
theorem registerBatch_error :
    Avoids (· = Revert.importTopupFailed) (registerBatch d msg w batchId ttlExpiry) := by
  refine .ite (fun _ => .error (by decide)) fun _ => .ite (fun _ => .error (by decide)) fun _ => ?_
  refine .bind ((orRevert_upstream (by decide) _).mono ?_) fun _ _ => ?_
  · rintro _ rfl
    decide
  refine .ite (fun _ => .error (by decide)) fun _ => .ite (fun _ => .error (by decide)) fun _ => ?_
  refine .bind (.bind ?_ fun _ _ => .ok _) fun _ _ => .ok _
  exact .ite (fun _ => .error (by decide)) fun _ => .ok _

theorem importVolume_of_registered
    (first : registerBatch d msg w batchId ttlExpiry = .ok (id, registered)) :
    importVolume d msg w batchId ttlExpiry = triggerOne d msg registered id >>= fun ended =>
      if ended.1 ≠ .toppedUp ∧ ended.1 ≠ .noDeficit then .error .importTopupFailed
      else .ok (id, ended.2) := by
  rw [importVolume, first]
  rfl

/-- When the trigger part fails the import: for a past expiry, or for a deficit its
payer does not cover. -/
theorem importTopupFailed_iff
    (first : registerBatch d msg w batchId ttlExpiry = .ok (id, registered)) :
    importVolume d msg w batchId ttlExpiry = .error .importTopupFailed ↔
      Past w ttlExpiry ∨ (¬ Past w ttlExpiry ∧ Unpaid d msg w batchId) := by
  obtain ⟨outpayment, reg⟩ := registered_of_ok first
  rw [importVolume_of_registered first]
  constructor
  · intro failed
    cases ended : triggerOne d msg registered id with
    | error r =>
      rw [ended] at failed
      by_cases past : Past w ttlExpiry
      · exact .inl past
      · rw [reg.computed past] at ended
        split at ended
        · cases ended
        · have upstream := payDeficit_upstream _ _ _ _ _ r ended
          obtain rfl : r = .importTopupFailed := Except.error.inj failed
          exact absurd (by decide) upstream
    | ok pair =>
      rw [ended, ok_bind] at failed
      rcases import_ends reg ended with ⟨_, same⟩ | ⟨_, same, _⟩ | ⟨past, _⟩ | ⟨past, unpaid, _⟩
      · rw [same, if_neg (by decide)] at failed
        cases failed
      · rw [same, if_neg (by decide)] at failed
        cases failed
      · exact .inl past
      · exact .inr ⟨past, unpaid⟩
  · rintro (past | ⟨past, out, read, lacking, refused⟩)
    · obtain ⟨store, ended⟩ := reg.expired past
      rw [ended]
      rfl
    · have readAgain := reg.live.read
      rw [reg.block, reg.postage, read] at readAgain
      obtain rfl := Option.some.inj readAgain
      rw [reg.computed past, if_neg (by omega), payDeficit, reg.canPull, reg.record, refused]
      rfl

/-- All or nothing. A successful import issued a fresh ID with an Active record that
agrees with Postage, consumed one nonce and left the batch at target; a reverted one
changed nothing; and once the registration part is through, the trigger part ends in
one of four ways and fails the import exactly for a past expiry or an uncovered
deficit. -/
theorem import_all_or_nothing (documented : d.Documented) (msg : Msg) (w : World T P)
    (batchId : Bytes32) (ttlExpiry : UInt64) :
    (∀ id w', importVolume d msg w batchId ttlExpiry = .ok (id, w') →
      (w.store.volumes id).status = .none ∧
      (w'.store.volumes id).status = .active ∧
      (w'.store.volumes id).owner = msg.sender ∧
      (w'.store.volumes id).batchId = batchId ∧
      (w'.store.volumes id).chunkSigner = (d.stamp.batches w'.postage batchId).owner ∧
      (w'.store.volumes id).depth = (d.stamp.batches w'.postage batchId).depth ∧
      (∀ o, (w'.store.accounts o).nonce = if o = msg.sender
        then (w.store.accounts o).nonce + 1 else (w.store.accounts o).nonce) ∧
      ∃ outpayment, d.stamp.currentTotalOutPayment w'.block w'.postage = some outpayment ∧
        d.target w'.postage ≤ (d.stamp.batches w'.postage batchId).normalisedBalance - outpayment) ∧
    (∀ r, execute d msg w (.importVolume batchId ttlExpiry) = .error r →
      transact d msg w (.importVolume batchId ttlExpiry) = w) ∧
    (∀ id registered, registerBatch d msg w batchId ttlExpiry = .ok (id, registered) →
      (∀ outcome w', triggerOne d msg registered id = .ok (outcome, w') →
        (¬ Past w ttlExpiry ∧ outcome = .toppedUp) ∨
        (¬ Past w ttlExpiry ∧ outcome = .noDeficit ∧ w' = registered) ∨
        (Past w ttlExpiry ∧ outcome = .retired ∧
          w'.events = registered.events ++ [.volumeRetired id .volumeExpired]) ∨
        (¬ Past w ttlExpiry ∧ Unpaid d msg w batchId ∧ outcome = .skipped ∧
          w'.events = registered.events ++ [.topupSkipped id .paymentFailed])) ∧
      (importVolume d msg w batchId ttlExpiry = .error .importTopupFailed ↔
        Past w ttlExpiry ∨ (¬ Past w ttlExpiry ∧ Unpaid d msg w batchId))) ∧
    (∀ r, registerBatch d msg w batchId ttlExpiry = .error r → r ≠ .importTopupFailed) := by
  refine ⟨fun id w' ok => ?_, fun r failed => ?_, fun id registered first => ⟨?_, ?_⟩,
    fun r failed => registerBatch_error r failed⟩
  · obtain ⟨registered, outcome, first, second, settled⟩ := importVolume_success ok
    obtain ⟨outpayment, reg⟩ := registered_of_ok first
    obtain ⟨store, read, funded, owner, depth⟩ := import_funded documented reg second settled
    rw [store, reg.record, owner, depth]
    refine ⟨reg.fresh, rfl, rfl, rfl, rfl, rfl, fun o => ?_, outpayment, read, funded⟩
    rw [reg.accounts]
    split
    · rfl
    · rfl
  · rw [transact, failed]
  · obtain ⟨outpayment, reg⟩ := registered_of_ok first
    exact fun outcome w' ended => import_ends reg ended
  · exact importTopupFailed_iff first

theorem import_all_or_nothing_sample : ∃ id w',
    importVolume Sample.deployment ⟨Sample.owner, 4⟩ Sample.confirmed Sample.batch 0 = .ok (id, w') ∧
    (w'.store.volumes id).status = .active ∧
    (w'.store.volumes id).depth = (w'.postage.batches Sample.batch).depth := by
  obtain ⟨⟨id, w'⟩, ok⟩ : ∃ r, importVolume Sample.deployment ⟨Sample.owner, 4⟩ Sample.confirmed
      Sample.batch 0 = .ok r := success_of_isOk (by decide)
  have imported := (import_all_or_nothing Sample.documented ⟨Sample.owner, 4⟩ Sample.confirmed
    Sample.batch 0).1 id w' ok
  exact ⟨id, w', ok, imported.2.1, imported.2.2.2.2.2.1⟩

end SwarmVolumes.Guarantees.Import
