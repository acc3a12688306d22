import SwarmVolumes.Guarantees.Survival
import SwarmVolumes.Guarantees.VolumeIdentity
import Mathlib.Logic.Relation

/-!
# Full runway

A batch that holds `graceBlocks` blocks at the current price is live for that many
blocks as long as the price does not rise, whatever is called meanwhile. With the
price constant and nobody topping it up it is dead from then on.
-/
namespace SwarmVolumes.Guarantees.Runway
open Library Source Survival VolumeIdentity

variable {T P : Type} {d : Deployment T P} {msg : Msg} {w w' x x' : World T P} {b id : Bytes32}
variable {outpayment cap : Nat} {exactly : Bool}

def reading (d : Deployment T P) (w : World T P) : Option Nat :=
  d.stamp.currentTotalOutPayment w.block w.postage

def batch (d : Deployment T P) (w : World T P) (b : Bytes32) : Batch := d.stamp.batches w.postage b

/-! ## What others do -/

/-- One thing that happens between calls, seen from batch `b`. Nothing takes from its
balance, but once it is dead its record may go. -/
inductive Moves (d : Deployment T P) (b : Bytes32) (w w' : World T P) : (toppedUp : Bool) → Prop
  /-- A block at the price in force. -/
  | block (number : w'.block.number = w.block.number + 1)
      (charged : reading d w' = (reading d w).map (· + price d w)) (rate : price d w' = price d w)
      (kept : batch d w' b = batch d w b) : Moves d b w w' false
  | toppedUp {n : Nat} (block : w'.block = w.block) (charged : reading d w' = reading d w)
      (rate : price d w' = price d w) (owner : (batch d w' b).owner = (batch d w b).owner)
      (depth : (batch d w' b).depth = (batch d w b).depth)
      (balance : (batch d w' b).normalisedBalance = (batch d w b).normalisedBalance + n) :
      Moves d b w w' true
  | expired (block : w'.block = w.block) (charged : reading d w' = reading d w)
      (rate : price d w' = price d w)
      (dead : ∀ o, reading d w = some o → (batch d w b).normalisedBalance ≤ o)
      (gone : (batch d w' b).normalisedBalance = 0) : Moves d b w w' false
  /-- A new price, or anything that is not about `b`. -/
  | other (block : w'.block = w.block) (charged : reading d w' = reading d w)
      (kept : batch d w' b = batch d w b) : Moves d b w w' false

/-- Others act while the price does not exceed `cap`. -/
def calm (d : Deployment T P) (b : Bytes32) (cap : Nat) : World T P → World T P → Prop :=
  Relation.ReflTransGen fun w w' => (∃ toppedUp, Moves d b w w' toppedUp) ∧ price d w' ≤ cap

/-- Others act while the price stays `cap`, and nobody tops `b` up. -/
def still (d : Deployment T P) (b : Bytes32) (cap : Nat) : World T P → World T P → Prop :=
  Relation.ReflTransGen fun w w' => Moves d b w w' false ∧ price d w' = cap

/-! ## What calls do -/

/-- What a call leaves of the meter and of a live batch. -/
structure Kept (d : Deployment T P) (b : Bytes32) (w w' : World T P) : Prop where
  block : w'.block = w.block
  read : reading d w' = reading d w
  rate : price d w' = price d w
  live : ∀ outpayment, Live d w b outpayment → (batch d w' b).owner ≠ 0 ∧
    (batch d w b).normalisedBalance ≤ (batch d w' b).normalisedBalance

/-- What trigger steps leave of any batch. -/
structure Topped (d : Deployment T P) (b : Bytes32) (w w' : World T P) : Prop where
  block : w'.block = w.block
  read : reading d w' = reading d w
  rate : price d w' = price d w
  owner : (batch d w' b).owner = (batch d w b).owner
  grows : (batch d w b).normalisedBalance ≤ (batch d w' b).normalisedBalance

theorem Topped.refl (w : World T P) : Topped d b w w := ⟨rfl, rfl, rfl, rfl, Nat.le_refl _⟩

theorem Topped.trans (first : Topped d b w x) (second : Topped d b x w') : Topped d b w w' :=
  ⟨second.block.trans first.block, second.read.trans first.read, second.rate.trans first.rate,
    second.owner.trans first.owner, first.grows.trans second.grows⟩

theorem Topped.kept (topped : Topped d b w w') : Kept d b w w' :=
  ⟨topped.block, topped.read, topped.rate, fun _ live => ⟨topped.owner ▸ live.present, topped.grows⟩⟩

/-- Neither the block nor PostageStamp changed. -/
theorem topped_of_same (block : w'.block = w.block) (postage : w'.postage = w.postage) :
    batch d w' b = batch d w b ∧ Topped d b w w' := by
  have same : batch d w' b = batch d w b := by
    rw [batch, postage, batch]
  refine ⟨same, block, ?_, ?_, ?_, ?_⟩
  · rw [reading, block, postage, reading]
  · rw [price, postage, price]
  · rw [same]
  · rw [same]

/-- A step that adds to batch `b`. -/
def AddsTo (b : Bytes32) (step : TriggerStep T P) : Prop :=
  step.outcome = .toppedUp ∧ (step.before.store.volumes step.volumeId).batchId = b

theorem triggerOne_topped (documented : d.Documented) {outcome : TriggerOutcome}
    (ok : triggerOne d msg w id = .ok (outcome, w')) : Topped d b w w' ∧
    (¬ AddsTo b ⟨w, id, outcome, w'⟩ → batch d w' b = batch d w b) := by
  obtain ⟨block, ⟨_, postage, _⟩ | ⟨toppedUp, outpayment, due, raised⟩⟩ :=
    triggerOne_outside documented ok
  · obtain ⟨same, topped⟩ := topped_of_same (d := d) (b := b) block postage
    exact ⟨topped, fun _ => same⟩
  · have others : b ≠ (w.store.volumes id).batchId → batch d w' b = batch d w b := raised.others b
    have read : reading d w' = reading d w := by
      rw [reading, block]
      exact raised.outpayment _
    have rate : price d w' = price d w := congrArg UInt64.toNat raised.price
    by_cases same : b = (w.store.volumes id).batchId
    · have grown : (batch d w' b).normalisedBalance = (batch d w b).normalisedBalance + _ :=
        same ▸ raised.balance
      refine ⟨⟨block, read, rate, same ▸ raised.owner, grown ▸ Nat.le_add_right _ _⟩, fun none => ?_⟩
      exact absurd ⟨toppedUp, same.symm⟩ none
    · have kept := others same
      refine ⟨⟨block, read, rate, ?_, ?_⟩, fun _ => kept⟩
      · rw [kept]
      · rw [kept]

theorem triggerMany_topped (documented : d.Documented) {ids : List Bytes32}
    (ok : triggerMany d msg w ids = .ok w') : Topped d b w w' ∧
    ((∀ step ∈ triggerSteps d msg w ids, ¬ AddsTo b step) → batch d w' b = batch d w b) := by
  induction ids generalizing w with
  | nil =>
    cases ok
    exact ⟨.refl _, fun _ => rfl⟩
  | cons id ids ih =>
    obtain ⟨mid, first, rest⟩ := bind_success ok
    obtain ⟨outcome, one⟩ := trigger_success first
    obtain ⟨topped, kept⟩ := triggerOne_topped (b := b) documented one
    obtain ⟨later, keptLater⟩ := ih rest
    refine ⟨topped.trans later, fun none => ?_⟩
    simp only [triggerSteps, one, List.forall_mem_cons] at none
    exact (keptLater none.2).trans (kept none.1)

theorem createVolume_kept (credits : d.stamp.Credits) (spares : d.stamp.Spares)
    {chunkSigner : Address} {depth bucketDepth : UInt8} {ttlExpiry : UInt64} {immutableBatch : Bool}
    (ok : createVolume d msg w chunkSigner depth bucketDepth ttlExpiry immutableBatch = .ok (id, w')) :
    Kept d b w w' ∧ ((w'.store.volumes id).batchId ≠ b →
      (batch d w' b).normalisedBalance ≤ (batch d w b).normalisedBalance) := by
  obtain ⟨_, _, _, _, _, reply, called, rides, block, postage⟩ := createVolume_made ok
  obtain ⟨same, unmoved⟩ := credits.createBatch_frame called
  refine ⟨⟨block, ?_, ?_, fun outpayment live => ?_⟩, fun different => ?_⟩
  · rw [reading, block, postage]
    exact same _
  · rw [price, postage, unmoved, price]
  · have different : b ≠ reply.value := by
      rintro rfl
      exact live.present (spares.createBatch_fresh called)
    rw [batch, batch, postage, spares.createBatch_live called different live.read live.alive]
    exact ⟨live.present, Nat.le_refl _⟩
  · rw [rides] at different
    rw [batch, batch, postage]
    exact spares.createBatch_balance called different.symm

/-- The call tops batch `b` up, or creates it. -/
def AddedBy (d : Deployment T P) (b : Bytes32) (e : Entry T P) : Prop :=
  (∃ step ∈ e.call.steps d e.msg e.before, AddsTo b step) ∨
  ∃ chunkSigner depth bucketDepth ttlExpiry immutableBatch id,
    e.call = .createVolume chunkSigner depth bucketDepth ttlExpiry immutableBatch ∧
    e.returned = some id ∧ (e.after.store.volumes id).batchId = b

/-- What any call leaves of the meter and of a live batch; one that does not add to a
batch leaves it no more than it had. -/
theorem execute_kept (documented : d.Documented) (credits : d.stamp.Credits)
    (spares : d.stamp.Spares) {call : Call} {value : Option Bytes32}
    (ok : execute d msg w call = .ok (value, w')) :
    Kept d b w w' ∧ (¬ AddedBy d b ⟨w, msg, call, .ok (value, w')⟩ →
      (batch d w' b).normalisedBalance ≤ (batch d w b).normalisedBalance) := by
  cases execute_reach ok with
  | inside other steps block bzz postage =>
    obtain ⟨same, start⟩ := topped_of_same (d := d) (b := b) block postage
    exact ⟨start.kept, fun _ => le_of_eq (congrArg Batch.normalisedBalance same)⟩
  | created ok =>
    obtain ⟨kept, other⟩ := createVolume_kept (b := b) credits spares ok
    refine ⟨kept, fun none => other fun rides => none (.inr ?_)⟩
    exact ⟨_, _, _, _, _, _, rfl, rfl, rides⟩
  | stepped other steps before block bzz postage ok =>
    obtain ⟨same, start⟩ := topped_of_same (d := d) (b := b) block postage
    obtain ⟨topped, kept⟩ := triggerMany_topped (b := b) documented ok
    refine ⟨(start.trans topped).kept, fun none => ?_⟩
    rw [kept fun step member adds => none (.inl ⟨step, steps ▸ member, adds⟩), same]

/-! ## What a volume's call establishes -/

/-- A successful call that leaves volume `id` with a full batch; `exactly` when it
just paid for the last of it. -/
inductive Establishes (d : Deployment T P) (e : Entry T P) : (id : Bytes32) → (exactly : Bool) → Prop
  | created {chunkSigner : Address} {depth bucketDepth : UInt8} {ttlExpiry : UInt64}
      {immutableBatch : Bool} {id : Bytes32}
      (call : e.call = .createVolume chunkSigner depth bucketDepth ttlExpiry immutableBatch)
      (returned : e.returned = some id) : Establishes d e id true
  | imported {batchId id : Bytes32} {ttlExpiry : UInt64}
      (call : e.call = .importVolume batchId ttlExpiry) (returned : e.returned = some id) :
      Establishes d e id false
  | toppedUp {step : TriggerStep T P} (succeeded : e.Succeeded)
      (member : step ∈ e.call.steps d e.msg e.before) (outcome : step.outcome = .toppedUp) :
      Establishes d e step.volumeId true
  | noDeficit {step : TriggerStep T P} (succeeded : e.Succeeded)
      (member : step ∈ e.call.steps d e.msg e.before) (outcome : step.outcome = .noDeficit) :
      Establishes d e step.volumeId false

/-- The batch exists and holds `graceBlocks` blocks at the current price, and no more
if `exactly`. -/
structure Stocked (d : Deployment T P) (w : World T P) (b : Bytes32) (outpayment : Nat)
    (exactly : Bool) : Prop where
  read : reading d w = some outpayment
  present : (batch d w b).owner ≠ 0
  enough : outpayment + price d w * d.graceBlocks.toNat ≤ (batch d w b).normalisedBalance
  only : exactly = true →
    (batch d w b).normalisedBalance ≤ outpayment + price d w * d.graceBlocks.toNat

theorem full_stocked (full : Full d w b outpayment) : Stocked d w b outpayment exactly :=
  ⟨full.read, full.present, full.balance.ge, fun _ => full.balance.le⟩

theorem Stocked.weaken (stocked : Stocked d w b outpayment exactly) :
    Stocked d w b outpayment false :=
  ⟨stocked.read, stocked.present, stocked.enough, nofun⟩

/-- A batch at target is not topped up again. -/
theorem Stocked.not_short {v : Volume} (stocked : Stocked d w v.batchId outpayment exactly) {o : Nat}
    (due : Due d w v o) : d.target w.postage ≤ d.remaining w.postage v o := by
  obtain rfl := Option.some.inj (due.read.symm.trans stocked.read)
  have enough : o + d.target w.postage ≤ (d.batchOf w.postage v).normalisedBalance := stocked.enough
  unfold Deployment.remaining
  omega

theorem Stocked.triggerOne (documented : d.Documented) (stocked : Stocked d w b outpayment exactly)
    {outcome : TriggerOutcome} (ok : triggerOne d msg w id = .ok (outcome, w')) :
    Stocked d w' b outpayment exactly := by
  obtain ⟨topped, kept⟩ := triggerOne_topped (b := b) documented ok
  have same : batch d w' b = batch d w b := by
    refine kept ?_
    rintro ⟨toppedUp, rfl⟩
    change outcome = .toppedUp at toppedUp
    subst toppedUp
    cases triggerOne_end ok with
    | toppedUp due auth short => exact absurd (stocked.not_short due) (Nat.not_le.mpr short)
  refine ⟨topped.read.trans stocked.read, ?_, ?_, fun just => ?_⟩
  · rw [same]
    exact stocked.present
  · rw [same, topped.rate]
    exact stocked.enough
  · rw [same, topped.rate]
    exact stocked.only just

theorem Stocked.triggerMany (documented : d.Documented) (stocked : Stocked d w b outpayment exactly)
    {ids : List Bytes32} (ok : triggerMany d msg w ids = .ok w') :
    Stocked d w' b outpayment exactly := by
  induction ids generalizing w with
  | nil =>
    cases ok
    exact stocked
  | cons id ids ih =>
    obtain ⟨mid, first, rest⟩ := bind_success ok
    obtain ⟨outcome, one⟩ := trigger_success first
    exact ih (stocked.triggerOne documented one) rest

theorem noDeficit_stocked (ok : triggerOne d msg w id = .ok (.noDeficit, w')) :
    ∃ outpayment, Stocked d w' (w.store.volumes id).batchId outpayment false := by
  cases triggerOne_end ok with
  | noDeficit due auth full =>
    refine ⟨_, due.read, due.present, ?_, nofun⟩
    have alive := due.alive
    change d.target w.postage ≤ (batch d w (w.store.volumes id).batchId).normalisedBalance - _ at full
    change _ + d.target w.postage ≤ (batch d w (w.store.volumes id).batchId).normalisedBalance
    change _ < (batch d w (w.store.volumes id).batchId).normalisedBalance at alive
    omega

theorem triggerMany_rides {ids : List Bytes32} (ok : triggerMany d msg w ids = .ok w')
    (x : Bytes32) : (w'.store.volumes x).batchId = (w.store.volumes x).batchId := by
  obtain ⟨events, trace, about⟩ := triggerMany_effects ok
  have silent : ∀ e ∈ events, e.admission = none := by
    intro e member
    obtain ⟨id, _, of⟩ := about e member
    exact triggerOf_admission of
  have written := ((trace_quiet silent (Effect.trace_store trace).1).2 x).2
  exact congrArg (fun v => v.2.2.1) written

/-- The steps of a call that ended well leave their batches full at its end. -/
theorem steps_stocked (documented : d.Documented) {ids : List Bytes32}
    (ok : triggerMany d msg w ids = .ok w') {step : TriggerStep T P}
    (member : step ∈ triggerSteps d msg w ids) :
    (step.outcome = .toppedUp →
      ∃ outpayment, Stocked d w' (w'.store.volumes step.volumeId).batchId outpayment true) ∧
    (step.outcome = .noDeficit →
      ∃ outpayment, Stocked d w' (w'.store.volumes step.volumeId).batchId outpayment false) := by
  induction ids generalizing w with
  | nil => simp [triggerSteps] at member
  | cons id ids ih =>
    have rides := triggerMany_rides ok
    obtain ⟨mid, first, rest⟩ := bind_success ok
    obtain ⟨outcome, one⟩ := trigger_success first
    simp only [triggerSteps, one, List.mem_cons] at member
    rcases member with rfl | later
    · rw [rides id]
      constructor
      · rintro rfl
        obtain ⟨outpayment, full⟩ := triggerOne_full documented one
        exact ⟨outpayment, (full_stocked full).triggerMany documented rest⟩
      · rintro rfl
        obtain ⟨outpayment, stocked⟩ := noDeficit_stocked one
        exact ⟨outpayment, stocked.triggerMany documented rest⟩
    · exact ih rest later

/-- So do the steps of any call. -/
theorem call_stocked (documented : d.Documented) {call : Call} {value : Option Bytes32}
    (ok : execute d msg w call = .ok (value, w')) {step : TriggerStep T P}
    (member : step ∈ call.steps d msg w) :
    (step.outcome = .toppedUp →
      ∃ outpayment, Stocked d w' (w'.store.volumes step.volumeId).batchId outpayment true) ∧
    (step.outcome = .noDeficit →
      ∃ outpayment, Stocked d w' (w'.store.volumes step.volumeId).batchId outpayment false) := by
  cases execute_reach ok with
  | inside other steps => simp [steps] at member
  | created => simp [Call.steps] at member
  | stepped other steps before block bzz postage ok =>
    rw [steps] at member
    exact steps_stocked documented ok member

theorem established_stocked (documented : d.Documented) (credits : d.stamp.Credits) {e : Entry T P}
    (executed : e.result = execute d e.msg e.before e.call) (established : Establishes d e id exactly) :
    ∃ outpayment, Stocked d e.after (e.after.store.volumes id).batchId outpayment exactly := by
  obtain ⟨before, msg, call, result⟩ := e
  change result = _ at executed
  cases established with
  | created call returned =>
    cases call
    obtain ⟨value, after, rfl⟩ := Entry.succeeded_iff.mp (returned_succeeded returned)
    obtain ⟨⟨made, left⟩, ok, same⟩ := map_success executed.symm
    cases same
    cases returned
    obtain ⟨outpayment, full⟩ := createVolume_full credits ok
    exact ⟨outpayment, full_stocked full⟩
  | imported call returned =>
    cases call
    obtain ⟨value, after, rfl⟩ := Entry.succeeded_iff.mp (returned_succeeded returned)
    have success := executed.symm
    obtain ⟨⟨made, left⟩, ok, same⟩ := map_success executed.symm
    cases same
    cases returned
    obtain ⟨registered, outcome, first, second, ended⟩ := importVolume_success ok
    have member : ⟨registered, id, outcome, after⟩ ∈ triggerSteps d msg registered [id] := by
      simp [triggerSteps, second]
    have run : triggerMany d msg registered [id] = .ok after := triggerMany_single second
    obtain ⟨topped, full⟩ := steps_stocked documented run member
    rcases ended with rfl | rfl
    · obtain ⟨outpayment, stocked⟩ := topped rfl
      exact ⟨outpayment, stocked.weaken⟩
    · exact full rfl
  | toppedUp succeeded member outcome =>
    obtain ⟨value, after, rfl⟩ := Entry.succeeded_iff.mp succeeded
    exact (call_stocked documented executed.symm member).1 outcome
  | noDeficit succeeded member outcome =>
    obtain ⟨value, after, rfl⟩ := Entry.succeeded_iff.mp succeeded
    exact (call_stocked documented executed.symm member).2 outcome

/-! ## The runway -/

/-- `blocks` blocks from `start` on, at no more than `cap` a block, are paid for. -/
structure Covered (d : Deployment T P) (b : Bytes32) (start outpayment cap blocks : Nat)
    (w : World T P) : Prop where
  later : start ≤ w.block.number
  capped : price d w ≤ cap
  paid : w.block.number < start + blocks → ∃ o, reading d w = some o ∧
    o ≤ outpayment + cap * (w.block.number - start) ∧ (batch d w b).owner ≠ 0 ∧
    outpayment + cap * blocks ≤ (batch d w b).normalisedBalance

variable {start blocks : Nat}

theorem Covered.live (covered : Covered d b start outpayment cap blocks w) (priced : 1 ≤ cap)
    (early : w.block.number < start + blocks) : ∃ o, Live d w b o := by
  obtain ⟨o, read, charged, present, enough⟩ := covered.paid early
  have elapsed : w.block.number - start < blocks := by
    have := covered.later
    omega
  have less : cap * (w.block.number - start) < cap * blocks := Nat.mul_lt_mul_of_pos_left elapsed priced
  exact ⟨o, read, present, by unfold batch at enough; omega⟩

theorem Covered.kept (covered : Covered d b start outpayment cap blocks w) (priced : 1 ≤ cap)
    (kept : Kept d b w w') : Covered d b start outpayment cap blocks w' := by
  refine ⟨kept.block ▸ covered.later, kept.rate ▸ covered.capped, fun early => ?_⟩
  rw [kept.block] at early ⊢
  obtain ⟨o, read, charged, _, enough⟩ := covered.paid early
  obtain ⟨o', live⟩ := covered.live priced early
  obtain ⟨present, grows⟩ := kept.live o' live
  exact ⟨o, kept.read.trans read, charged, present, enough.trans grows⟩

theorem Covered.moves (covered : Covered d b start outpayment cap blocks w) (priced : 1 ≤ cap)
    {toppedUp : Bool} (moves : Moves d b w w' toppedUp) (capped : price d w' ≤ cap) :
    Covered d b start outpayment cap blocks w' := by
  have later := covered.later
  cases moves with
  | block number charged rate kept =>
    refine ⟨by omega, capped, fun early => ?_⟩
    obtain ⟨o, read, grown, present, enough⟩ := covered.paid (by omega)
    refine ⟨o + price d w, by rw [charged, read]; rfl, ?_, by rwa [kept], by rwa [kept]⟩
    have one : w'.block.number - start = (w.block.number - start) + 1 := by omega
    have held := covered.capped
    rw [one, Nat.mul_succ]
    omega
  | toppedUp block charged rate owner depth balance =>
    refine ⟨block ▸ later, capped, fun early => ?_⟩
    rw [block] at early ⊢
    obtain ⟨o, read, grown, present, enough⟩ := covered.paid early
    exact ⟨o, charged.trans read, grown, owner ▸ present, by omega⟩
  | expired block charged rate dead gone =>
    refine ⟨block ▸ later, capped, fun early => ?_⟩
    rw [block] at early
    obtain ⟨o, live⟩ := covered.live priced early
    exact absurd (dead o live.read) (Nat.not_le.mpr live.alive)
  | other block charged kept =>
    refine ⟨block ▸ later, capped, fun early => ?_⟩
    rw [block] at early ⊢
    obtain ⟨o, read, grown, present, enough⟩ := covered.paid early
    exact ⟨o, charged.trans read, grown, by rwa [kept], by rwa [kept]⟩

/-- The meter has run at `cap` a block since `start`, and nothing came in beyond
`blocks` blocks' worth. -/
structure Metered (d : Deployment T P) (b : Bytes32) (start outpayment cap blocks : Nat)
    (w : World T P) : Prop where
  later : start ≤ w.block.number
  rate : price d w = cap
  read : reading d w = some (outpayment + cap * (w.block.number - start))
  bounded : (batch d w b).normalisedBalance ≤ outpayment + cap * blocks

theorem Metered.dead (metered : Metered d b start outpayment cap blocks w)
    (due : start + blocks ≤ w.block.number) : ¬ ∃ o, Live d w b o := by
  rintro ⟨o, live⟩
  obtain rfl := Option.some.inj (live.read.symm.trans metered.read)
  have passed : blocks ≤ w.block.number - start := by omega
  have spent : cap * blocks ≤ cap * (w.block.number - start) := Nat.mul_le_mul_left cap passed
  have bounded := metered.bounded
  have alive := live.alive
  unfold batch at bounded
  omega

theorem Metered.kept (metered : Metered d b start outpayment cap blocks w) (kept : Kept d b w w')
    (less : (batch d w' b).normalisedBalance ≤ (batch d w b).normalisedBalance) :
    Metered d b start outpayment cap blocks w' := by
  refine ⟨kept.block ▸ metered.later, kept.rate.trans metered.rate, ?_, less.trans metered.bounded⟩
  rw [kept.block, kept.read]
  exact metered.read

theorem Metered.moves (metered : Metered d b start outpayment cap blocks w)
    (moves : Moves d b w w' false) (rate : price d w' = cap) :
    Metered d b start outpayment cap blocks w' := by
  have later := metered.later
  cases moves with
  | block number charged same kept =>
    refine ⟨by omega, rate, ?_, kept ▸ metered.bounded⟩
    have one : w'.block.number - start = (w.block.number - start) + 1 := by omega
    rw [charged, metered.read, Option.map_some, metered.rate, one, Nat.mul_succ, Nat.add_assoc]
  | expired block charged same dead gone =>
    exact ⟨block ▸ later, rate, by rw [charged, block]; exact metered.read, gone ▸ Nat.zero_le _⟩
  | other block charged kept =>
    exact ⟨block ▸ later, rate, by rw [charged, block]; exact metered.read, kept ▸ metered.bounded⟩

theorem calm_covered (priced : 1 ≤ cap) (moved : calm d b cap w w')
    (covered : Covered d b start outpayment cap blocks w) :
    Covered d b start outpayment cap blocks w' := by
  induction moved with
  | refl => exact covered
  | tail _ last ih =>
    obtain ⟨⟨_, moves⟩, capped⟩ := last
    exact ih.moves priced moves capped

theorem still_metered (moved : still d b cap w w')
    (metered : Metered d b start outpayment cap blocks w) :
    Metered d b start outpayment cap blocks w' := by
  induction moved with
  | refl => exact metered
  | tail _ last ih => exact ih.moves last.1 last.2

theorem run_covered (documented : d.Documented) (credits : d.stamp.Credits)
    (spares : d.stamp.Spares) (priced : 1 ≤ cap) {es : List (Entry T P)}
    (run : Run d (calm d b cap) w es w') (covered : Covered d b start outpayment cap blocks w) :
    Covered d b start outpayment cap blocks w' := by
  refine Run.invariant (Covered d b start outpayment cap blocks) covered
    (fun _ _ _ moved held => calm_covered priced moved held) ?_ run
  intro msg call x value x' _ ok held
  exact held.kept priced (execute_kept documented credits spares ok).1

theorem run_metered (documented : d.Documented) (credits : d.stamp.Credits)
    (spares : d.stamp.Spares) {es : List (Entry T P)} (run : Run d (still d b cap) w es w')
    (none : ∀ e ∈ es, ¬ AddedBy d b e) (metered : Metered d b start outpayment cap blocks w) :
    Metered d b start outpayment cap blocks w' := by
  refine (run.restrict none).invariant (Metered d b start outpayment cap blocks) metered ?_
  rintro x e x' ⟨step, quiet⟩ held
  have before := still_metered step.moved held
  rw [step.left]
  obtain ⟨start, msg, call, result⟩ := e
  cases result with
  | error r => exact before
  | ok pair =>
    obtain ⟨value, after⟩ := pair
    obtain ⟨kept, less⟩ := execute_kept (b := b) documented credits spares step.executed.symm
    exact before.kept kept (less quiet)

/-- Right after a creation, an import, or a trigger that found the batch at target or
topped it up: while the price does not rise the batch is live at every block before
`graceBlocks` have passed, whatever anyone calls. With the price constant and nobody
adding to a batch just paid for, it is dead from then on. -/
theorem full_runway (documented : d.Documented) (credits : d.stamp.Credits)
    (spares : d.stamp.Spares) {e : Entry T P} (executed : e.result = execute d e.msg e.before e.call)
    (established : Establishes d e id exactly) (rides : (e.after.store.volumes id).batchId = b)
    (priced : 1 ≤ price d e.after) :
    (∀ es x x', Run d (calm d b (price d e.after)) e.after es x →
      calm d b (price d e.after) x x' →
      x'.block.number < e.after.block.number + d.graceBlocks.toNat → ∃ o, Live d x' b o) ∧
    (exactly = true → ∀ es x x', Run d (still d b (price d e.after)) e.after es x →
      (∀ a ∈ es, ¬ AddedBy d b a) → still d b (price d e.after) x x' →
      e.after.block.number + d.graceBlocks.toNat ≤ x'.block.number → ¬ ∃ o, Live d x' b o) := by
  obtain ⟨outpayment, stocked⟩ := established_stocked documented credits executed established
  rw [rides] at stocked
  constructor
  · intro es x x' run moved early
    have covered : Covered d b e.after.block.number outpayment (price d e.after)
        d.graceBlocks.toNat e.after := by
      refine ⟨Nat.le_refl _, Nat.le_refl _, fun _ => ⟨outpayment, stocked.read, ?_, stocked.present,
        stocked.enough⟩⟩
      omega
    have after := run_covered documented credits spares priced run covered
    exact (calm_covered priced moved after).live priced early
  · intro just es x x' run none moved late
    have metered : Metered d b e.after.block.number outpayment (price d e.after)
        d.graceBlocks.toNat e.after := by
      refine ⟨Nat.le_refl _, rfl, ?_, stocked.only just⟩
      rw [stocked.read, Nat.sub_self, Nat.mul_zero, Nat.add_zero]
    have after := run_metered documented credits spares run none metered
    exact (still_metered moved after).dead late

open Sample (deployment first enrolled)

/-- The trigger that tops the sample volume up. -/
def topping : Entry Reference.Ledger Reference.Office :=
  ⟨enrolled, ⟨0xD, 5⟩, .trigger first, execute deployment ⟨0xD, 5⟩ enrolled (.trigger first)⟩

def later (n : Nat) : World Reference.Ledger Reference.Office :=
  { topping.after with block := ⟨topping.after.block.number + n, topping.after.block.timestamp⟩ }

theorem later_moves {n : Nat} (few : n < 10) :
    Moves deployment Sample.batch (later n) (later (n + 1)) false := by
  have charged : ∀ n < 10, reading deployment (later (n + 1)) =
      (reading deployment (later n)).map (· + price deployment (later n)) := by decide +kernel
  exact .block rfl (charged n few) rfl rfl

theorem later_still {n : Nat} (few : n ≤ 10) :
    still deployment Sample.batch (price deployment topping.after) topping.after (later n) := by
  induction n with
  | zero => exact .refl
  | succ n ih => exact .tail (ih (by omega)) ⟨later_moves (by omega), rfl⟩

theorem later_calm {n : Nat} (few : n ≤ 10) :
    calm deployment Sample.batch (price deployment topping.after) topping.after (later n) := by
  induction n with
  | zero => exact .refl
  | succ n ih => exact .tail (ih (by omega)) ⟨⟨_, later_moves (by omega)⟩, Nat.le_refl _⟩

def toppingStep : TriggerStep Reference.Ledger Reference.Office :=
  ⟨enrolled, first, .toppedUp, topping.after⟩

theorem topping_establishes : Establishes deployment topping toppingStep.volumeId true := by
  have ok : triggerOne deployment ⟨0xD, 5⟩ enrolled first = .ok (.toppedUp, topping.after) := rfl
  have member : toppingStep ∈ topping.call.steps deployment topping.msg topping.before := by
    change _ ∈ triggerSteps deployment ⟨0xD, 5⟩ enrolled [first]
    rw [triggerSteps, ok]
    exact List.mem_cons_self ..
  have succeeded : topping.Succeeded := by decide
  have outcome : toppingStep.outcome = .toppedUp := rfl
  exact .toppedUp succeeded member outcome

/-- Ten blocks of grace: live in the ninth, dead in the tenth. -/
theorem full_runway_sample : (∃ o, Live deployment (later 9) Sample.batch o) ∧
    ¬ ∃ o, Live deployment (later 10) Sample.batch o := by
  have rides : (topping.after.store.volumes toppingStep.volumeId).batchId = Sample.batch := by
    decide +kernel
  have priced : 1 ≤ price deployment topping.after := by decide +kernel
  obtain ⟨lives, dies⟩ := full_runway Sample.documented Reference.stamp_credits
    Reference.stamp_contained.spares rfl topping_establishes rides priced
  exact ⟨lives [] _ _ .nil (later_calm (by decide)) (by decide),
    dies rfl [] _ _ .nil (by simp) (later_still (by decide)) (by decide)⟩

end SwarmVolumes.Guarantees.Runway
