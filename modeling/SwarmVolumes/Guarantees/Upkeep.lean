import SwarmVolumes.Guarantees.Runway

/-!
# Upkeep

What the keeper is for. A volume whose batch is brought to target again before the
meter reaches what it was last brought to is never lost, whoever calls what in the
meantime and whatever the price does: only its owner or its TTL ends it.
-/
namespace SwarmVolumes.Guarantees.Upkeep
open Library Source Source.SurvivalFloor Survival Runway

variable {T P : Type} {d : Deployment T P} {msg : Msg} {w w' x x' : World T P} {b id : Bytes32}
variable {fund outpayment : Nat}

/-! ## A volume and its batch -/

/-- Batch `b` has this owner and depth, and is paid for until the meter reaches `fund`. -/
structure Backed (d : Deployment T P) (b : Bytes32) (fund : Nat) (signer : Address)
    (chunks : UInt8) (w : World T P) : Prop where
  owner : (batch d w b).owner = signer
  depth : (batch d w b).depth = chunks
  present : (batch d w b).owner ≠ 0
  funded : fund ≤ (batch d w b).normalisedBalance

/-- The batch of volume `id` is as its record has it. -/
structure Held (d : Deployment T P) (id b : Bytes32) (fund : Nat) (w : World T P) : Prop
    extends Backed d b fund (w.store.volumes id).chunkSigner (w.store.volumes id).depth w where
  known : (w.store.volumes id).status ≠ .none
  rides : (w.store.volumes id).batchId = b

variable {signer : Address} {chunks : UInt8}

/-- The batch is the same and has lost nothing. -/
structure Spared (d : Deployment T P) (b : Bytes32) (w w' : World T P) : Prop
    extends Topped d b w w' where
  depth : (batch d w' b).depth = (batch d w b).depth

theorem Spared.trans (first : Spared d b w x) (second : Spared d b x w') : Spared d b w w' :=
  ⟨first.toTopped.trans second.toTopped, second.depth.trans first.depth⟩

theorem spared_of_same (block : w'.block = w.block) (postage : w'.postage = w.postage) :
    Spared d b w w' := by
  obtain ⟨same, topped⟩ := topped_of_same (d := d) (b := b) block postage
  exact ⟨topped, by rw [same]⟩

theorem Backed.live (backed : Backed d b fund signer chunks w) (read : reading d w = some outpayment)
    (below : outpayment < fund) : Live d w b outpayment :=
  ⟨read, backed.present, below.trans_le backed.funded⟩

/-- What a record says of its volume for good. -/
structure Recorded (id : Bytes32) (w w' : World T P) : Prop where
  known : (w'.store.volumes id).status ≠ .none
  written : (w'.store.volumes id).written = (w.store.volumes id).written

theorem Recorded.same (known : (w.store.volumes id).status ≠ .none) (store : w'.store = w.store) :
    Recorded id w w' := by
  constructor
  · rwa [store]
  · rw [store]

theorem Held.spared (held : Held d id b fund w) (recorded : Recorded id w w')
    (spared : Spared d b w w') : Held d id b fund w' := by
  have written := recorded.written
  simp only [Volume.written, Prod.mk.injEq] at written
  obtain ⟨_, signer, rides, _, _, depth⟩ := written
  refine ⟨⟨?_, ?_, ?_, held.funded.trans spared.grows⟩, recorded.known, rides.trans held.rides⟩
  · rw [spared.owner, held.owner, signer]
  · rw [spared.depth, held.depth, depth]
  · rw [spared.owner]
    exact held.present

theorem step_recorded {sender : Address} {s s' : Storage} {e : Event} (step : StoreStep d sender s e s')
    (known : (s.volumes id).status ≠ .none) :
    (s'.volumes id).status ≠ .none ∧ (s'.volumes id).written = (s.volumes id).written := by
  cases step with
  | @admitted _ a timestamp nextNonce announced owner auth named unused =>
    have different : id ≠ a.volumeId := fun same => known (same ▸ unused)
    rw [Storage.enter_volumes, if_neg different]
    exact ⟨known, rfl⟩
  | retired active retired named =>
    obtain ⟨written, status⟩ := (Storage.retire_frame retired).2.2.1 id
    refine ⟨?_, written⟩
    rw [status]
    split
    · simp
    · exact known
  | _ => exact ⟨known, rfl⟩

theorem trace_recorded {events : List Event} (trace : Trace (Effect d msg) w events w')
    (known : (w.store.volumes id).status ≠ .none) : Recorded id w w' := by
  apply trace.invariant (Recorded id w) (.same known rfl)
  intro u e u' effect recorded
  obtain ⟨known, written⟩ := step_recorded effect.store.1 recorded.known
  exact ⟨known, written.trans recorded.written⟩

/-! ## What calls leave of a live batch -/

theorem triggerOne_spared (documented : d.Documented) {i : Bytes32} {outcome : TriggerOutcome}
    (ok : triggerOne d msg w i = .ok (outcome, w')) : Spared d b w w' := by
  refine ⟨(triggerOne_topped documented ok).1, ?_⟩
  obtain ⟨_, ⟨_, postage, _⟩ | ⟨_, _, _, raised⟩⟩ := triggerOne_outside documented ok
  · rw [batch, batch, postage]
  · by_cases same : b = (w.store.volumes i).batchId
    · rw [same]
      exact raised.depth
    · exact congrArg Batch.depth (raised.others b same)

theorem triggerMany_spared (documented : d.Documented) {ids : List Bytes32}
    (ok : triggerMany d msg w ids = .ok w') : Spared d b w w' := by
  induction ids generalizing w with
  | nil =>
    cases ok
    exact spared_of_same rfl rfl
  | cons i ids ih =>
    obtain ⟨mid, first, rest⟩ := bind_success ok
    obtain ⟨outcome, one⟩ := trigger_success first
    exact (triggerOne_spared documented one).trans (ih rest)

theorem execute_spared (documented : d.Documented) (credits : d.stamp.Credits)
    (spares : d.stamp.Spares) (live : Live d w b outpayment) {call : Call} {value : Option Bytes32}
    (ok : execute d msg w call = .ok (value, w')) : Spared d b w w' := by
  cases execute_reach ok with
  | inside other steps block bzz postage => exact spared_of_same block postage
  | created ok =>
    obtain ⟨_, _, _, _, _, reply, called, rides, block, postage⟩ := createVolume_made ok
    obtain ⟨same, unmoved⟩ := credits.createBatch_frame called
    have different : b ≠ reply.value := by
      rintro rfl
      exact live.present (spares.createBatch_fresh called)
    have kept : batch d w' b = batch d w b := by
      rw [batch, postage, spares.createBatch_live called different live.read live.alive, batch]
    refine ⟨⟨block, ?_, ?_, by rw [kept], by rw [kept]⟩, by rw [kept]⟩
    · rw [reading, block, postage]
      exact same _
    · rw [price, postage, unmoved, price]
  | stepped other steps before block bzz postage ok =>
    exact (spared_of_same block postage).trans (triggerMany_spared documented ok)

theorem execute_recorded {call : Call} {value : Option Bytes32}
    (ok : execute d msg w call = .ok (value, w')) (known : (w.store.volumes id).status ≠ .none) :
    Recorded id w w' := by
  obtain ⟨events, trace, _⟩ := execute_effects ok
  exact trace_recorded trace known

/-! ## What calls retire -/

def Active (id : Bytes32) (w : World T P) : Prop := (w.store.volumes id).status = .active

theorem retire_other {s s' : Storage} {i : Bytes32} (retired : s.retire i = .ok s') (other : id ≠ i) :
    (s'.volumes id).status = (s.volumes id).status := by
  rw [((Storage.retire_frame retired).2.2.1 id).2, if_neg other]

/-- A volume whose batch is live and as recorded has no edge but its TTL. -/
theorem Held.no_edge (held : Held d id b fund w) (live : Live d w b outpayment)
    (unexpired : ¬ (w.store.volumes id).Expired w.block.timestamp) {reason : RetireReason} :
    ¬ RetireEdge d w (w.store.volumes id) reason := by
  have rides := held.rides
  subst rides
  intro edge
  cases edge with
  | batchDied read dead => exact live_not_dead live read dead
  | batchOwnerMismatch _ mismatch => exact mismatch held.owner
  | depthChanged _ _ changed => exact changed held.depth
  | volumeExpired _ _ _ expired => exact unexpired expired

theorem triggerOne_active (held : Held d id b fund w) (live : Live d w b outpayment)
    (unexpired : ¬ (w.store.volumes id).Expired w.block.timestamp) (active : Active id w)
    {i : Bytes32} {outcome : TriggerOutcome} (ok : triggerOne d msg w i = .ok (outcome, w')) :
    Active id w' := by
  cases triggerOne_end ok with
  | retired _ edge retired =>
    by_cases same : id = i
    · subst same
      exact absurd edge (held.no_edge live unexpired)
    · exact (retire_other retired same).trans active
  | toppedUp due auth short shifted payable pulled approved topped =>
    obtain ⟨store₁, _⟩ := pull_frame pulled
    obtain ⟨store₂, _⟩ := approve_frame approved
    obtain ⟨store₃, _⟩ := topUp_frame topped
    rw [Active, World.emit_store, store₃, store₂, store₁]
    exact active
  | _ => exact active

theorem triggerMany_active (documented : d.Documented) (held : Held d id b fund w)
    (live : Live d w b outpayment)
    (unexpired : ¬ (w.store.volumes id).Expired w.block.timestamp) (active : Active id w)
    {ids : List Bytes32} (ok : triggerMany d msg w ids = .ok w') : Active id w' := by
  induction ids generalizing w with
  | nil =>
    cases ok
    exact active
  | cons i ids ih =>
    obtain ⟨mid, first, rest⟩ := bind_success ok
    obtain ⟨outcome, one⟩ := trigger_success first
    obtain ⟨events, trace, _⟩ := triggerOne_effects one
    have recorded := trace_recorded trace held.known
    have spared : Spared d b w mid := triggerOne_spared documented one
    have ttl : (mid.store.volumes id).ttlExpiry = (w.store.volumes id).ttlExpiry :=
      congrArg (·.2.2.2.2.1) recorded.written
    have kept := held.spared recorded spared
    have later : Live d mid b outpayment :=
      ⟨spared.read.trans live.read, kept.present, live.alive.trans_le spared.grows⟩
    apply ih kept later ?_ (triggerOne_active held live unexpired active one) rest
    rw [Volume.Expired, ttl, spared.block]
    exact unexpired

/-- Only a retirement of `id` takes it off the active volumes. -/
theorem trace_active {events : List Event} (trace : Trace (Effect d msg) w events w')
    (spares : ∀ e ∈ events, ∀ reason, e ≠ .volumeRetired id reason) (active : Active id w) :
    Active id w' := by
  apply (trace.restrict spares).invariant (Active id) active
  intro u e u' taken held
  have step := taken.1.store.1
  have other := taken.2
  unfold Active at held ⊢
  generalize u'.store = after at step
  cases step with
  | @admitted _ a timestamp nextNonce announced owner auth named unused =>
    have different : id ≠ a.volumeId := by
      intro same
      rw [same, unused] at held
      cases held
    rw [Storage.enter_volumes, if_neg different]
    exact held
  | @retired i reason _ active retired named =>
    have different : id ≠ i := by
      rintro rfl
      exact other reason rfl
    exact (retire_other retired different).trans held
  | _ => exact held

/-- The owner deletes the volume, or its TTL has passed. -/
def Ends (id : Bytes32) (e : Entry T P) : Prop :=
  (e.call = .deleteVolume id ∧ e.Succeeded) ∨
  (e.before.store.volumes id).Expired e.before.block.timestamp

theorem reap_active (d : Deployment T P)
    (unexpired : ¬ (w.store.volumes id).Expired w.block.timestamp) (active : Active id w)
    {i : Bytes32} (ok : reap msg w i = .ok w') : Active id w' := by
  have ended : _ ∨ (_ ∧ Effect d msg w _ _) := reap_effect ok
  rcases ended with rfl | ⟨expired, effect⟩
  · exact active
  · have different : i ≠ id := by
      rintro rfl
      exact unexpired expired
    apply trace_active (.single effect) ?_ active
    intro e member reason
    rw [List.mem_singleton.mp member]
    simp [different]

theorem execute_active (documented : d.Documented) (held : Held d id b fund w)
    (live : Live d w b outpayment) (active : Active id w) {call : Call} {value : Option Bytes32}
    (ok : execute d msg w call = .ok (value, w'))
    (goesOn : ¬ Ends id ⟨w, msg, call, .ok (value, w')⟩) : Active id w' := by
  have unexpired : ¬ (w.store.volumes id).Expired w.block.timestamp :=
    fun expired => goesOn (.inr expired)
  have quiet : (∀ events, Emits msg.sender call value events →
      ∀ e ∈ events, ∀ reason, e ≠ .volumeRetired id reason) → Active id w' := by
    intro spares
    obtain ⟨events, trace, emits⟩ := execute_effects ok
    exact trace_active trace (spares events emits) active
  cases call with
  | trigger i =>
    obtain ⟨_, ok, same⟩ := map_success ok
    cases same
    obtain ⟨outcome, one⟩ := trigger_success ok
    exact triggerOne_active held live unexpired active one
  | triggerMany ids =>
    obtain ⟨_, ok, same⟩ := map_success ok
    cases same
    exact triggerMany_active documented held live unexpired active ok
  | importVolume batchId ttlExpiry =>
    obtain ⟨⟨made, left⟩, ok, same⟩ := map_success ok
    cases same
    obtain ⟨registered, outcome, first, second, _⟩ := importVolume_success ok
    have effect := registerBatch_effect first
    have trace : Trace (Effect d msg) w _ registered := .single effect
    have outside : registered.block = w.block ∧ registered.postage = w.postage := by
      cases effect with
      | imported => exact ⟨rfl, rfl⟩
    have recorded := trace_recorded trace held.known
    have ttl : (registered.store.volumes id).ttlExpiry = (w.store.volumes id).ttlExpiry :=
      congrArg (·.2.2.2.2.1) recorded.written
    have spared : Spared d b w registered := spared_of_same outside.1 outside.2
    have kept := held.spared recorded spared
    have later : Live d registered b outpayment :=
      ⟨spared.read.trans live.read, kept.present, live.alive.trans_le spared.grows⟩
    apply triggerOne_active kept later ?_ (trace_active trace (by simp) active) second
    rw [Volume.Expired, ttl, outside.1]
    exact unexpired
  | reap i =>
    obtain ⟨_, ok, same⟩ := map_success ok
    cases same
    exact reap_active d unexpired active ok
  | deleteVolume i =>
    have different : i ≠ id := by
      rintro rfl
      exact goesOn (.inl ⟨rfl, rfl⟩)
    apply quiet
    intro events emits e member reason
    cases emits with
    | deleteVolume =>
      rw [List.mem_singleton.mp member]
      simp [different]
  | _ =>
    apply quiet
    intro events emits e member reason
    cases emits with
    | _ =>
      rw [List.mem_singleton.mp member]
      simp

/-! ## Between calls -/

/-- Others act on batch `b`; the price may do anything. -/
def drifts (d : Deployment T P) (b : Bytes32) : World T P → World T P → Prop :=
  Relation.ReflTransGen fun w w' => ∃ toppedUp, Moves d b w w' toppedUp

/-- The meter does not run backwards, and stays readable only if it was. -/
theorem moves_reading {toppedUp : Bool} (moves : Moves d b w w' toppedUp)
    (read : reading d w' = some outpayment) : ∃ o, reading d w = some o ∧ o ≤ outpayment := by
  cases moves with
  | block number charged rate kept =>
    rw [charged, Option.map_eq_some_iff] at read
    obtain ⟨o, before, rfl⟩ := read
    exact ⟨o, before, Nat.le_add_right _ _⟩
  | toppedUp block charged => exact ⟨outpayment, charged ▸ read, Nat.le_refl _⟩
  | expired block charged => exact ⟨outpayment, charged ▸ read, Nat.le_refl _⟩
  | other block charged => exact ⟨outpayment, charged ▸ read, Nat.le_refl _⟩

theorem drifts_reading (moved : drifts d b w w') (read : reading d w' = some outpayment) :
    ∃ o, reading d w = some o ∧ o ≤ outpayment := by
  induction moved generalizing outpayment with
  | refl => exact ⟨outpayment, read, Nat.le_refl _⟩
  | tail _ last ih =>
    obtain ⟨_, moves⟩ := last
    obtain ⟨o, before, le⟩ := moves_reading moves read
    obtain ⟨o', start, le'⟩ := ih before
    exact ⟨o', start, le'.trans le⟩

theorem Backed.moves (backed : Backed d b fund signer chunks w) {toppedUp : Bool}
    (moves : Moves d b w w' toppedUp) (read : reading d w = some outpayment)
    (below : outpayment < fund) : Backed d b fund signer chunks w' := by
  have same : batch d w' b = batch d w b → Backed d b fund signer chunks w' := by
    intro kept
    obtain ⟨owner, depth, present, funded⟩ := backed
    rw [← kept] at owner depth present funded
    exact ⟨owner, depth, present, funded⟩
  cases moves with
  | block number charged rate kept => exact same kept
  | toppedUp block charged rate owner depth balance =>
    refine ⟨owner.trans backed.owner, depth.trans backed.depth, owner ▸ backed.present, ?_⟩
    rw [balance]
    exact backed.funded.trans (Nat.le_add_right _ _)
  | expired block charged rate dead gone =>
    have alive := (backed.live read below).alive
    exact absurd (dead outpayment read) (Nat.not_le.mpr alive)
  | other block charged kept => exact same kept

/-- While the meter stays below `fund`, nothing others do ends it. -/
theorem Backed.drifts (backed : Backed d b fund signer chunks w) (moved : drifts d b w w')
    (read : reading d w' = some outpayment) (below : outpayment < fund) :
    Backed d b fund signer chunks w' := by
  induction moved generalizing outpayment with
  | refl => exact backed
  | tail _ last ih =>
    obtain ⟨_, moves⟩ := last
    obtain ⟨o, before, le⟩ := moves_reading moves read
    exact (ih before (le.trans_lt below)).moves moves before (le.trans_lt below)

theorem Held.drifts (held : Held d id b fund w) (idle : w'.store = w.store) (moved : drifts d b w w')
    (read : reading d w' = some outpayment) (below : outpayment < fund) : Held d id b fund w' := by
  have backed := held.toBacked.drifts moved read below
  rw [← idle] at backed
  exact ⟨backed, by rw [idle]; exact held.known, by rw [idle]; exact held.rides⟩

/-! ## What a visit leaves -/

/-- Trigger steps that get past every edge found the batch as recorded. -/
theorem due_held {i : Bytes32} (due : Due d w (w.store.volumes i) outpayment) :
    Held d i (w.store.volumes i).batchId (outpayment + 1) w ∧ Active i w := by
  refine ⟨⟨⟨due.owner, due.depth, due.present, due.alive⟩, ?_, rfl⟩, due.active⟩
  rw [due.active]
  simp

/-- Once settled in a list, a volume stays settled to its end, its batch live. -/
theorem settled_held (documented : d.Documented) {i : Bytes32} {ids : List Bytes32} {mid : World T P}
    {outcome : TriggerOutcome} (due : Due d w (w.store.volumes i) outpayment)
    (one : triggerOne d msg w i = .ok (outcome, mid)) (rest : triggerMany d msg mid ids = .ok w') :
    (∃ b o, reading d w' = some o ∧ Held d i b (o + 1) w') ∧ Active i w' := by
  obtain ⟨held, active⟩ := due_held due
  have many : triggerMany d msg w (i :: ids) = .ok w' := by
    simp only [triggerMany, trigger, one]
    exact rest
  obtain ⟨events, trace, _⟩ := triggerMany_effects many
  have spared : Spared d (w.store.volumes i).batchId w w' := triggerMany_spared documented many
  have still := triggerMany_active documented held due.toLive due.unexpired active many
  have kept := held.spared (trace_recorded trace held.known) spared
  exact ⟨⟨_, _, spared.read.trans due.read, kept⟩, still⟩

theorem steps_held (documented : d.Documented) {ids : List Bytes32}
    (ok : triggerMany d msg w ids = .ok w') {step : TriggerStep T P}
    (member : step ∈ triggerSteps d msg w ids)
    (settled : step.outcome = .toppedUp ∨ step.outcome = .noDeficit) :
    (∃ b o, reading d w' = some o ∧ Held d step.volumeId b (o + 1) w') ∧ Active step.volumeId w' := by
  induction ids generalizing w with
  | nil => simp [triggerSteps] at member
  | cons i ids ih =>
    obtain ⟨mid, first, rest⟩ := bind_success ok
    obtain ⟨outcome, one⟩ := trigger_success first
    simp only [triggerSteps, one, List.mem_cons] at member
    rcases member with rfl | later
    · cases triggerOne_end one with
      | noDeficit due => exact settled_held documented due one rest
      | toppedUp due => exact settled_held documented due one rest
      | _ => simp at settled
    · exact ih rest later

theorem call_held (documented : d.Documented) {call : Call} {value : Option Bytes32}
    (ok : execute d msg w call = .ok (value, w')) {step : TriggerStep T P}
    (member : step ∈ call.steps d msg w)
    (settled : step.outcome = .toppedUp ∨ step.outcome = .noDeficit) :
    (∃ b o, reading d w' = some o ∧ Held d step.volumeId b (o + 1) w') ∧ Active step.volumeId w' := by
  cases execute_reach ok with
  | inside other steps => simp [steps] at member
  | created => simp [Call.steps] at member
  | stepped other steps before block bzz postage ok =>
    rw [steps] at member
    exact steps_held documented ok member settled

theorem createVolume_held (credits : d.stamp.Credits) (records : d.stamp.Records)
    {chunkSigner : Address} {depth bucketDepth : UInt8} {ttlExpiry : UInt64} {immutableBatch : Bool}
    (ok : createVolume d msg w chunkSigner depth bucketDepth ttlExpiry immutableBatch = .ok (id, w')) :
    (∃ b fund, Held d id b fund w') ∧ Active id w' := by
  obtain ⟨batchId, effect⟩ := createVolume_effect ok
  cases effect with
  | @created _ _ _ _ _ _ _ _ w₁ w₂ w₃ store auth nonzero shifted pulled approved made recorded =>
    obtain ⟨reply, called, rfl, block, postage⟩ := createBatch_value made
    obtain ⟨_, _, owner, _⟩ := credits.createBatch_batch called
    have deep := records.createBatch_depth called
    obtain ⟨_, _, entered⟩ := Storage.recordVolume_success recorded
    have volume : store.volumes id = Admission.record ⟨id, msg.sender, reply.value, chunkSigner,
        depth, ttlExpiry⟩ w₃.block.timestamp (UInt32.ofNat w₃.store.activeVolumeIds.length) := by
      rw [entered, Storage.enter_volumes, if_pos rfl]
    have minted : batch d w₃ reply.value = d.stamp.batches reply.postage reply.value := by
      rw [batch, postage]
    refine ⟨⟨reply.value, 0, ⟨?_, ?_, ?_, Nat.zero_le _⟩, ?_, ?_⟩, ?_⟩
    · exact (congrArg Batch.owner minted).trans (owner.trans (congrArg Volume.chunkSigner volume).symm)
    · exact (congrArg Batch.depth minted).trans (deep.trans (congrArg Volume.depth volume).symm)
    · change (batch d w₃ reply.value).owner ≠ 0
      rw [minted, owner]
      exact nonzero
    · change (store.volumes id).status ≠ .none
      rw [volume]
      simp [Admission.record]
    · exact congrArg Volume.batchId volume
    · exact congrArg Volume.status volume

/-- What the meter reads, and `graceBlocks` blocks at the current price beyond it. -/
def target (d : Deployment T P) (w : World T P) (outpayment : Nat) : Nat :=
  outpayment + price d w * d.graceBlocks.toNat

/-- A visited volume is Active on a live batch as recorded, paid for up to the target. -/
theorem established_held (documented : d.Documented) (credits : d.stamp.Credits)
    (records : d.stamp.Records) {e : Entry T P} {exactly : Bool}
    (executed : e.result = execute d e.msg e.before e.call) (established : Establishes d e id exactly) :
    ∃ o, reading d e.after = some o ∧
      Held d id (e.after.store.volumes id).batchId (target d e.after o) e.after ∧
      Active id e.after := by
  obtain ⟨o, stocked⟩ := established_stocked documented credits executed established
  obtain ⟨⟨b, fund, held⟩, active⟩ : (∃ b fund, Held d id b fund e.after) ∧ Active id e.after := by
    obtain ⟨before, msg, call, result⟩ := e
    change result = _ at executed
    cases established with
    | created call returned =>
      cases call
      obtain ⟨value, after, rfl⟩ :=
        Entry.succeeded_iff.mp (VolumeIdentity.returned_succeeded returned)
      obtain ⟨⟨made, left⟩, ok, same⟩ := map_success executed.symm
      cases same
      cases returned
      exact createVolume_held credits records ok
    | imported call returned =>
      cases call
      obtain ⟨value, after, rfl⟩ :=
        Entry.succeeded_iff.mp (VolumeIdentity.returned_succeeded returned)
      obtain ⟨⟨made, left⟩, ok, same⟩ := map_success executed.symm
      cases same
      cases returned
      obtain ⟨registered, outcome, first, second, ended⟩ := importVolume_success ok
      have member : ⟨registered, id, outcome, after⟩ ∈ triggerSteps d msg registered [id] := by
        simp [triggerSteps, second]
      obtain ⟨⟨b, _, _, held⟩, active⟩ :=
        steps_held documented (triggerMany_single second) member ended
      exact ⟨⟨b, _, held⟩, active⟩
    | toppedUp succeeded member outcome =>
      obtain ⟨value, after, rfl⟩ := Entry.succeeded_iff.mp succeeded
      obtain ⟨⟨b, _, _, held⟩, active⟩ := call_held documented executed.symm member (.inl outcome)
      exact ⟨⟨b, _, held⟩, active⟩
    | noDeficit succeeded member outcome =>
      obtain ⟨value, after, rfl⟩ := Entry.succeeded_iff.mp succeeded
      obtain ⟨⟨b, _, _, held⟩, active⟩ := call_held documented executed.symm member (.inr outcome)
      exact ⟨⟨b, _, held⟩, active⟩
  obtain ⟨⟨owner, depth, present, funded⟩, known, rides⟩ := held
  subst rides
  exact ⟨o, stocked.read, ⟨⟨owner, depth, present, stocked.enough⟩, known, rfl⟩, active⟩

/-- A visit by a trigger leaves the batch live, at any price. -/
theorem visited_live (documented : d.Documented) {e : Entry T P} {exactly : Bool}
    (executed : e.result = execute d e.msg e.before e.call) (trigger : e.call = .trigger id)
    (established : Establishes d e id exactly) :
    ∃ o, Live d e.after (e.after.store.volumes id).batchId o := by
  obtain ⟨before, msg, call, result⟩ := e
  change result = _ at executed
  subst trigger
  obtain ⟨b, o, read, held⟩ : ∃ b o, reading d (Entry.after ⟨before, msg, .trigger id, result⟩) = some o ∧
      Held d id b (o + 1) (Entry.after ⟨before, msg, .trigger id, result⟩) := by
    cases established with
    | created call => cases call
    | imported call => cases call
    | toppedUp succeeded member outcome =>
      obtain ⟨value, after, rfl⟩ := Entry.succeeded_iff.mp succeeded
      exact (call_held documented executed.symm member (.inl outcome)).1
    | noDeficit succeeded member outcome =>
      obtain ⟨value, after, rfl⟩ := Entry.succeeded_iff.mp succeeded
      exact (call_held documented executed.symm member (.inr outcome)).1
  rw [held.rides]
  exact ⟨o, held.live read (Nat.lt_succ_self o)⟩

/-! ## Visits in time -/

/-- From a batch paid for up to `fund`, through the calls `es`, to the world `x`: each
visit, and the end, comes before the meter has reached what was paid for so far. -/
inductive Tended (d : Deployment T P) (id : Bytes32) (x : World T P) :
    (fund : Nat) → List (Entry T P) → Prop
  | done {fund outpayment : Nat} (read : reading d x = some outpayment) (below : outpayment < fund) :
      Tended d id x fund []
  | visited {fund before after : Nat} {e : Entry T P} {es : List (Entry T P)} {exactly : Bool}
      (read : reading d e.before = some before) (below : before < fund)
      (established : Establishes d e id exactly) (left : reading d e.after = some after)
      (rest : Tended d id x (target d e.after after) es) : Tended d id x fund (e :: es)
  | other {fund : Nat} {e : Entry T P} {es : List (Entry T P)} (rest : Tended d id x fund es) :
      Tended d id x fund (e :: es)

variable {es : List (Entry T P)}

/-- A call neither moves the meter nor the clock. -/
theorem entry_reading (documented : d.Documented) (credits : d.stamp.Credits)
    (spares : d.stamp.Spares) {e : Entry T P} (executed : e.result = execute d e.msg e.before e.call) :
    reading d e.after = reading d e.before ∧ e.after.block = e.before.block := by
  cases same : e.result with
  | error r =>
    rw [Entry.after_of_error same]
    exact ⟨rfl, rfl⟩
  | ok pair =>
    obtain ⟨value, after⟩ := pair
    rw [Entry.after_of_ok same]
    have kept := (execute_kept (b := 0) documented credits spares (executed.symm.trans same)).1
    exact ⟨kept.read, kept.block⟩

theorem entry_price (documented : d.Documented) (credits : d.stamp.Credits)
    (spares : d.stamp.Spares) {e : Entry T P} (executed : e.result = execute d e.msg e.before e.call) :
    price d e.after = price d e.before := by
  cases same : e.result with
  | error r => rw [Entry.after_of_error same]
  | ok pair =>
    obtain ⟨value, after⟩ := pair
    rw [Entry.after_of_ok same]
    exact (execute_kept (b := 0) documented credits spares (executed.symm.trans same)).1.rate

/-- The meter is below `fund` all the way to the next visit. -/
theorem Tended.reading (documented : d.Documented) (credits : d.stamp.Credits)
    (spares : d.stamp.Spares) (tended : Tended d id x' fund es) (run : Run d (drifts d b) w es x)
    (moved : drifts d b x x') : ∃ o, reading d w = some o ∧ o < fund := by
  induction tended generalizing w with
  | done read below =>
    obtain ⟨o, start, le⟩ := drifts_reading (run.nil_eq ▸ moved) read
    exact ⟨o, start, le.trans_lt below⟩
  | visited read below established left rest ih =>
    obtain ⟨mid, step, _⟩ := run.uncons
    obtain ⟨o, start, le⟩ := drifts_reading step.moved read
    exact ⟨o, start, le.trans_lt below⟩
  | other rest ih =>
    obtain ⟨mid, step, later⟩ := run.uncons
    obtain ⟨o, read, below⟩ := ih later
    rw [step.left, (entry_reading documented credits spares step.executed).1] at read
    obtain ⟨o', start, le⟩ := drifts_reading step.moved read
    exact ⟨o', start, le.trans_lt below⟩

/-- One call, the meter below `fund`: the batch stays paid for, and an Active volume
stays Active unless the call ends it. -/
theorem entry_held (documented : d.Documented) (credits : d.stamp.Credits)
    (spares : d.stamp.Spares) {e : Entry T P} (step : CallStep d (drifts d b) w e w')
    (held : Held d id b fund w) (read : reading d e.before = some outpayment)
    (below : outpayment < fund) :
    Held d id b fund w' ∧ (Active id w → Active id w' ∨ Ends id e) := by
  have before := held.drifts step.idle.store step.moved read below
  have live := before.live read below
  rw [step.left]
  obtain ⟨start, msg, call, result⟩ := e
  have executed : result = execute d msg start call := step.executed
  have store : start.store = w.store := step.idle.store
  cases result with
  | error r => exact ⟨before, fun active => .inl (by rwa [Active, Entry.after, store])⟩
  | ok pair =>
    obtain ⟨value, after⟩ := pair
    have recorded := execute_recorded executed.symm before.known
    have spared := execute_spared documented credits spares live executed.symm
    refine ⟨before.spared recorded spared, fun active => ?_⟩
    by_cases ends : Ends id ⟨start, msg, call, .ok (value, after)⟩
    · exact .inr ends
    · have active : Active id start := by rwa [Active, store]
      exact .inl (execute_active documented before live active executed.symm ends)

theorem Recorded.idle (recorded : Recorded id w x) (store : x'.store = x.store) : Recorded id w x' := by
  constructor
  · rw [store]
    exact recorded.known
  · rw [store]
    exact recorded.written

/-- What is recorded once stays so along a run. -/
theorem run_recorded {outside : World T P → World T P → Prop} (run : Run d outside w es w')
    (known : (w.store.volumes id).status ≠ .none) : Recorded id w w' := by
  apply run.invariant (Recorded id w) (.same known rfl)
  · intro u u' idle _ recorded
    exact recorded.idle idle.store
  · intro msg call u value u' _ ok recorded
    have called := execute_recorded ok recorded.known
    exact ⟨called.known, called.written.trans recorded.written⟩

/-- Active after one call and after those that follow, unless one of them ends the volume. -/
theorem active_cons {e : Entry T P} (first : Active id w → Active id w' ∨ Ends id e)
    (rest : Active id w' → Active id x ∨ ∃ a ∈ es, Ends id a) (active : Active id w) :
    Active id x ∨ ∃ a ∈ e :: es, Ends id a := by
  rcases first active with goesOn | ends
  · rcases rest goesOn with still | ⟨a, member, ends⟩
    · exact .inl still
    · exact .inr ⟨a, List.mem_cons_of_mem _ member, ends⟩
  · exact .inr ⟨e, List.mem_cons_self .., ends⟩

/-- Visited in time, a volume goes on, on its batch as recorded. -/
theorem run_tended (documented : d.Documented) (credits : d.stamp.Credits)
    (spares : d.stamp.Spares) (tended : Tended d id x' fund es) (run : Run d (drifts d b) w es x)
    (idle : x'.store = x.store) (moved : drifts d b x x') (held : Held d id b fund w) :
    (∃ o fund', Live d x' b o ∧ Held d id b fund' x') ∧
      (Active id w → Active id x' ∨ ∃ e ∈ es, Ends id e) := by
  induction tended generalizing w with
  | done read below =>
    have same := run.nil_eq
    subst same
    have kept := held.drifts idle moved read below
    exact ⟨⟨_, _, kept.live read below, kept⟩, fun active => .inl (by rwa [Active, idle])⟩
  | @visited fund before after e es exactly read below established left rest ih =>
    obtain ⟨mid, step, later⟩ := run.uncons
    obtain ⟨kept, active⟩ := entry_held documented credits spares step held read below
    obtain ⟨o, stocked⟩ := established_stocked documented credits step.executed established
    rw [step.left] at kept active later
    rw [kept.rides] at stocked
    obtain rfl := Option.some.inj (left.symm.trans stocked.read)
    obtain ⟨live, lasts⟩ := ih later
      ⟨⟨kept.owner, kept.depth, kept.present, stocked.enough⟩, kept.known, kept.rides⟩
    exact ⟨live, active_cons active lasts⟩
  | @other fund e es rest ih =>
    obtain ⟨mid, step, later⟩ := run.uncons
    obtain ⟨o, read, below⟩ := rest.reading documented credits spares later moved
    rw [step.left, (entry_reading documented credits spares step.executed).1] at read
    obtain ⟨kept, active⟩ := entry_held documented credits spares step held read below
    obtain ⟨live, lasts⟩ := ih later kept
    exact ⟨live, active_cons active lasts⟩

/-- From the call that created, imported or topped up a volume on, whatever anyone calls
and whatever the price does: if every visit, and the end, comes before the meter reaches
what was paid for at the visit before, then at the end the batch is live with the recorded
owner and depth, and the volume is Active, unless its owner deleted it or its TTL had passed
at some call. -/
theorem visits_keep_volume (documented : d.Documented) (credits : d.stamp.Credits)
    (spares : d.stamp.Spares) (records : d.stamp.Records) {e : Entry T P} {exactly : Bool}
    (executed : e.result = execute d e.msg e.before e.call) (established : Establishes d e id exactly)
    (rides : (e.after.store.volumes id).batchId = b) (read : reading d e.after = some outpayment)
    (tended : Tended d id x' (target d e.after outpayment) es) (run : Run d (drifts d b) e.after es x)
    (idle : x'.store = x.store) (moved : drifts d b x x') :
    (∃ o, Live d x' b o) ∧
      (x'.store.volumes id).batchId = b ∧
      (d.stamp.batches x'.postage b).owner = (x'.store.volumes id).chunkSigner ∧
      (d.stamp.batches x'.postage b).depth = (x'.store.volumes id).depth ∧
      Recorded id e.after x' ∧
      ((x'.store.volumes id).status = .active ∨ ∃ a ∈ es, Ends id a) := by
  obtain ⟨o, start, held, active⟩ := established_held documented credits records executed established
  obtain rfl := Option.some.inj (read.symm.trans start)
  rw [rides] at held
  obtain ⟨⟨o', fund, live, kept⟩, lasts⟩ :=
    run_tended documented credits spares tended run idle moved held
  have recorded : Recorded id e.after x' := (run_recorded run held.known).idle idle
  exact ⟨⟨o', live⟩, kept.rides, kept.owner, kept.depth, recorded, lasts active⟩

/-! ## A floor for every phase -/

/-- One raise less of grace pays for a raise in the block of the payment. -/
theorem lasting_any_phase {graceBlocks grace : UInt64} (positive : 0 < grace.toNat)
    (less : kmaxNum * grace.toNat ≤ priceBase * graceBlocks.toNat) {floorBlocks : Nat}
    (returned : computeFloorBlocks grace = some floorBlocks) {start : Nat} (priced : 0 < start)
    (phase : Nat) : Lasting start graceBlocks.toNat floorBlocks phase := by
  have risen : 0 < newPrice start := priced.trans_le (le_newPrice start)
  have budget : newPrice start * grace.toNat ≤ start * graceBlocks.toNat := by
    have rounded : newPrice start * priceBase ≤ start * kmaxNum := Nat.div_mul_le_self ..
    have scaled : newPrice start * grace.toNat * priceBase ≤
        start * graceBlocks.toNat * priceBase := by
      calc newPrice start * grace.toNat * priceBase
          = newPrice start * priceBase * grace.toNat := Nat.mul_right_comm ..
        _ ≤ start * kmaxNum * grace.toNat := Nat.mul_le_mul_right _ rounded
        _ = start * (kmaxNum * grace.toNat) := Nat.mul_assoc ..
        _ ≤ start * (priceBase * graceBlocks.toNat) := Nat.mul_le_mul_left _ less
        _ = start * graceBlocks.toNat * priceBase := by
          rw [Nat.mul_comm priceBase, Nat.mul_assoc]
    exact Nat.le_of_mul_le_mul_right scaled (by decide)
  have steep : ∀ s, steepest newPrice roundLength phase start s ≤
      steepest newPrice roundLength roundLength (newPrice start) s := by
    intro s
    rw [← steepest_zero (by decide)]
    exact steepest_le_zero newPrice_mono le_newPrice (by decide) phase s
  have later := lasting_of_round positive returned risen (Nat.le_refl roundLength)
  exact ((total_mono steep _).trans_lt later).trans_le budget

/-- Right after a volume was created or topped up, the survival floor of a grace period that is
one raise shorter holds whenever the next raise comes, the same block included. -/
theorem survives_any_phase (documented : d.Documented) (credits : d.stamp.Credits)
    (funded : Funded d msg w w' b) (priced : 0 < price d w') {grace : UInt64}
    (positive : 0 < grace.toNat) (less : kmaxNum * grace.toNat ≤ priceBase * d.graceBlocks.toNat) :
    ∃ floorBlocks, computeFloorBlocks grace = some floorBlocks ∧
      ∀ phase, Survives d w' b floorBlocks phase := by
  obtain ⟨outpayment, full⟩ := funded_full documented credits funded
  obtain ⟨floorBlocks, returned, _⟩ := computeFloorBlocks_spec positive
  have long : 0 < d.graceBlocks.toNat := by
    have scale : 0 < kmaxNum * grace.toNat := Nat.mul_pos (by decide) positive
    exact Nat.pos_of_mul_pos_left (scale.trans_le less)
  refine ⟨floorBlocks, returned, fun phase => ?_⟩
  exact (full.survives_iff priced long floorBlocks phase).mpr
    (lasting_any_phase positive less returned priced phase)

theorem flat_floor : computeFloorBlocks 9 = some 8 := by decide +kernel

theorem survives_any_phase_sample : computeFloorBlocks 9 = some 8 ∧
    ∀ phase, Survives Sample.deployment topped Sample.batch 8 phase := by
  obtain ⟨floorBlocks, returned, survives⟩ := survives_any_phase Sample.documented
    Reference.stamp_credits topped_funded (by decide) (by decide : 0 < (9 : UInt64).toNat) (by decide)
  obtain rfl := Option.some.inj (flat_floor.symm.trans returned)
  exact ⟨flat_floor, survives⟩

/-! ## A cadence that is enough -/

variable {initial gap : Nat} {rate : Nat → Nat}

/-- PostageStamp quotes the price from before or after the one change of its block. -/
def Quotes (d : Deployment T P) (initial : Nat) (rate : Nat → Nat) (w : World T P) : Prop :=
  price d w = previous initial rate w.block.number ∨ price d w = rate w.block.number

/-- Others act, and block `n` is charged at `rate n`. -/
def course (d : Deployment T P) (b : Bytes32) (initial : Nat) (rate : Nat → Nat) :
    World T P → World T P → Prop :=
  Relation.ReflTransGen fun w w' => (∃ toppedUp, Moves d b w w' toppedUp) ∧ Quotes d initial rate w' ∧
    (w'.block ≠ w.block → price d w = rate w.block.number)

/-- Since block `since`, when it read `outpayment`, the meter has run at `rate`. -/
structure Charged (d : Deployment T P) (rate : Nat → Nat) (since outpayment : Nat) (w : World T P) :
    Prop where
  later : since ≤ w.block.number
  read : reading d w =
    some (outpayment + total (fun k => rate (since + k)) (w.block.number - since))

theorem charged_start (read : reading d w = some outpayment) :
    Charged d rate w.block.number outpayment w := by
  refine ⟨Nat.le_refl _, ?_⟩
  rw [read, Nat.sub_self]
  rfl

theorem Charged.moves {since : Nat} (charged : Charged d rate since outpayment w) {toppedUp : Bool}
    (moves : Moves d b w w' toppedUp) (paced : w'.block ≠ w.block → price d w = rate w.block.number) :
    Charged d rate since outpayment w' := by
  have later := charged.later
  have still : w'.block = w.block → reading d w' = reading d w →
      Charged d rate since outpayment w' := by
    intro block read
    constructor
    · rw [block]
      exact later
    · rw [read, block]
      exact charged.read
  cases moves with
  | block number grown same kept =>
    have moved : w'.block ≠ w.block := by
      intro same
      rw [same] at number
      omega
    refine ⟨by omega, ?_⟩
    have one : w'.block.number - since = (w.block.number - since) + 1 := by omega
    have here : since + (w.block.number - since) = w.block.number := by omega
    rw [grown, charged.read, Option.map_some, paced moved, one, Library.total, Library.total,
      Finset.sum_range_succ, here, Nat.add_assoc]
  | toppedUp block read => exact still block read
  | expired block read => exact still block read
  | other block read => exact still block read

theorem Charged.course {since : Nat} (charged : Charged d rate since outpayment w)
    (moved : course d b initial rate w w') : Charged d rate since outpayment w' := by
  induction moved with
  | refl => exact charged
  | tail _ last ih =>
    obtain ⟨⟨_, moves⟩, _, paced⟩ := last
    exact ih.moves moves paced

theorem course_drifts (moved : course d b initial rate w w') : drifts d b w w' :=
  Relation.ReflTransGen.mono (fun _ _ step => step.1) _ _ moved

theorem course_quotes (quotes : Quotes d initial rate w) (moved : course d b initial rate w w') :
    Quotes d initial rate w' := by
  cases moved with
  | refl => exact quotes
  | tail _ last => exact last.2.1

/-- From block `last` on, through the calls `es`, to the world `x`: no two visits, and
not the last visit and the end, are `gap` blocks apart. -/
inductive Cadence (d : Deployment T P) (id : Bytes32) (gap : Nat) (x : World T P) :
    (last : Nat) → List (Entry T P) → Prop
  | done {last : Nat} (soon : x.block.number < last + gap) : Cadence d id gap x last []
  | visited {last : Nat} {e : Entry T P} {es : List (Entry T P)} {exactly : Bool}
      (soon : e.before.block.number < last + gap) (established : Establishes d e id exactly)
      (rest : Cadence d id gap x e.before.block.number es) : Cadence d id gap x last (e :: es)
  | other {last : Nat} {e : Entry T P} {es : List (Entry T P)} (rest : Cadence d id gap x last es) :
      Cadence d id gap x last (e :: es)

/-- Fewer than `gap` blocks of a rate-limited price cost less than was paid for. -/
theorem charge_below (limited : RateLimited newPrice roundLength initial rate) {since p : Nat}
    (quoted : p = previous initial rate since ∨ p = rate since) {graceBlocks : Nat}
    (lasting : Lasting p graceBlocks gap 0) {n : Nat} (soon : n < gap) :
    total (fun k => rate (since + k)) n < p * graceBlocks := by
  have worst := (limited_below_iff newPrice_mono le_newPrice (by decide : 0 < roundLength) 0
    p (p * graceBlocks) (gap - 1)).mpr lasting
  have longer : n ≤ gap - 1 := by omega
  exact (total_le_total longer).trans_lt (worst _ (limited.shift le_newPrice quoted) (LateBy.zero p _))

theorem Cadence.tended (documented : d.Documented) (credits : d.stamp.Credits)
    (spares : d.stamp.Spares) (limited : RateLimited newPrice roundLength initial rate)
    (lasting : ∀ n p, p = previous initial rate n ∨ p = rate n → Lasting p d.graceBlocks.toNat gap 0)
    {last p : Nat} (cadence : Cadence d id gap x' last es)
    (run : Run d (course d b initial rate) w es x) (moved : course d b initial rate x x')
    (charged : Charged d rate last outpayment w) (quotes : Quotes d initial rate w)
    (quoted : p = previous initial rate last ∨ p = rate last) :
    Tended d id x' (outpayment + p * d.graceBlocks.toNat) es := by
  induction cadence generalizing w outpayment p with
  | @done last soon =>
    have spent := charged.course (run.nil_eq ▸ moved)
    have later := spent.later
    have below := charge_below limited quoted (lasting _ _ quoted)
      (n := x'.block.number - last) (by omega)
    exact .done spent.read (Nat.add_lt_add_left below _)
  | @visited last e es exactly soon established rest ih =>
    obtain ⟨mid, step, later⟩ := run.uncons
    have spent := charged.course step.moved
    have after := spent.later
    have below := charge_below limited quoted (lasting _ _ quoted)
      (n := e.before.block.number - last) (by omega)
    obtain ⟨same, block⟩ := entry_reading documented credits spares step.executed
    have priced := entry_price documented credits spares step.executed
    have quotes := course_quotes quotes step.moved
    have read := same.trans spent.read
    rw [step.left] at later
    apply Tended.visited spent.read (Nat.add_lt_add_left below _) established read
    have begun : Charged d rate e.after.block.number _ e.after := charged_start read
    rw [block] at begun
    apply ih later begun
    · rwa [Quotes, priced, block]
    · rwa [priced]
  | other rest ih =>
    obtain ⟨mid, step, later⟩ := run.uncons
    have spent := charged.course step.moved
    obtain ⟨same, block⟩ := entry_reading documented credits spares step.executed
    have priced := entry_price documented credits spares step.executed
    have quotes := course_quotes quotes step.moved
    rw [step.left] at later
    apply Tended.other
    apply ih later ⟨?_, ?_⟩ ?_ quoted
    · rw [block]
      exact spent.later
    · rw [same, block]
      exact spent.read
    · rwa [Quotes, priced, block]

/-- From a batch paid for up to the target on, at a cadence that outruns every schedule. -/
theorem Cadence.lasts (documented : d.Documented) (credits : d.stamp.Credits)
    (spares : d.stamp.Spares) (limited : RateLimited newPrice roundLength initial rate)
    (priced : 0 < initial) (prices : ∀ n, 0 < rate n) {grace : UInt64} (positive : 0 < grace.toNat)
    (less : kmaxNum * grace.toNat ≤ priceBase * d.graceBlocks.toNat)
    (returned : computeFloorBlocks grace = some gap) (read : reading d w = some outpayment)
    (held : Held d id b (target d w outpayment) w) (active : Active id w)
    (quotes : Quotes d initial rate w) (cadence : Cadence d id gap x' w.block.number es)
    (run : Run d (course d b initial rate) w es x) (idle : x'.store = x.store)
    (moved : course d b initial rate x x') :
    (∃ o, Live d x' b o) ∧ ((x'.store.volumes id).status = .active ∨ ∃ a ∈ es, Ends id a) := by
  have known : ∀ n, 0 < previous initial rate n := by
    intro n
    cases n with
    | zero => exact priced
    | succ n => exact prices n
  have lasting : ∀ n p, p = previous initial rate n ∨ p = rate n →
      Lasting p d.graceBlocks.toNat gap 0 := by
    intro n p quoted
    have paid : 0 < p := by
      rcases quoted with rfl | rfl
      · exact known n
      · exact prices n
    exact lasting_any_phase positive less returned paid 0
  have tended := cadence.tended documented credits spares limited lasting run moved
    (charged_start read) quotes quotes
  have drifting : Run d (drifts d b) w es x := run.mono fun _ _ _ step =>
    ⟨step.idle, course_drifts step.moved, step.external, step.executed, step.left⟩
  obtain ⟨⟨o, _, live, _⟩, lasts⟩ := run_tended documented credits spares tended drifting idle
    (course_drifts moved) held
  exact ⟨⟨o, live⟩, lasts active⟩

open Sample (deployment first)

/-- Five blocks after the first top-up the keeper comes again. -/
def visit : Entry Reference.Ledger Reference.Office :=
  ⟨later 5, ⟨0xD, 6⟩, .trigger first, execute deployment ⟨0xD, 6⟩ (later 5) (.trigger first)⟩

def resumed (n : Nat) : World Reference.Ledger Reference.Office :=
  { visit.after with block := ⟨visit.after.block.number + n, visit.after.block.timestamp⟩ }

theorem resumed_moves {n : Nat} (few : n < 10) :
    Moves deployment Sample.batch (resumed n) (resumed (n + 1)) false := by
  have charged : ∀ n < 10, reading deployment (resumed (n + 1)) =
      (reading deployment (resumed n)).map (· + price deployment (resumed n)) := by decide +kernel
  exact .block rfl (charged n few) rfl rfl

def visitStep : TriggerStep Reference.Ledger Reference.Office :=
  ⟨later 5, first, .toppedUp, visit.after⟩

theorem visit_establishes : Establishes deployment visit visitStep.volumeId true := by
  have ok : triggerOne deployment ⟨0xD, 6⟩ (later 5) first = .ok (.toppedUp, visit.after) := rfl
  have member : visitStep ∈ visit.call.steps deployment visit.msg visit.before := by
    change _ ∈ triggerSteps deployment ⟨0xD, 6⟩ (later 5) [first]
    rw [triggerSteps, ok]
    exact List.mem_cons_self ..
  have succeeded : visit.Succeeded := by decide
  have outcome : visitStep.outcome = .toppedUp := rfl
  exact .toppedUp succeeded member outcome

/-- At a constant price of 3 the oracle keeps to every schedule. -/
theorem flat_course {n : Nat} (few : n < 10) :
    (course deployment Sample.batch 3 fun _ => 3) (later 0) (later n) ∧
    (course deployment Sample.batch 3 fun _ => 3) (resumed 0) (resumed n) := by
  induction n with
  | zero => exact ⟨.refl, .refl⟩
  | succ n ih =>
    obtain ⟨first, second⟩ := ih (by omega)
    exact ⟨.tail first ⟨⟨_, later_moves (by omega)⟩, .inr rfl, fun _ => rfl⟩,
      .tail second ⟨⟨_, resumed_moves (by omega)⟩, .inr rfl, fun _ => rfl⟩⟩

theorem visit_run {outside : World Reference.Ledger Reference.Office →
    World Reference.Ledger Reference.Office → Prop} (moved : outside (later 0) (later 5)) :
    Run deployment outside topping.after [visit] visit.after :=
  .single ⟨⟨rfl, rfl⟩, moved, by decide, rfl, rfl⟩

theorem topping_rides : (topping.after.store.volumes first).batchId = Sample.batch := by rfl

/-- Without the visit the batch would have died four blocks before. -/
theorem visits_keep_volume_sample : ∃ o, Live deployment (resumed 9) Sample.batch o := by
  have start : reading deployment topping.after = some 0 := rfl
  have before : reading deployment (later 5) = some 15 := rfl
  have after : reading deployment visit.after = some 15 := rfl
  have done : reading deployment (resumed 9) = some 42 := rfl
  have tended : Tended deployment first (resumed 9) (target deployment topping.after 0) [visit] :=
    .visited before (by decide) visit_establishes after (.done done (by decide))
  exact (visits_keep_volume Sample.documented Reference.stamp_credits
    Reference.stamp_contained.spares Reference.stamp_records rfl topping_establishes topping_rides
    start tended (visit_run (course_drifts (flat_course (by decide)).1)) rfl
    (course_drifts (flat_course (by decide)).2)).1

end SwarmVolumes.Guarantees.Upkeep
