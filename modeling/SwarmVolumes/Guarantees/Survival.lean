import SwarmVolumes.Library.RateLimit
import SwarmVolumes.Source.SurvivalFloor
import SwarmVolumes.Source.Registry.Sample

/-!
# Survival

A batch that a volume was just created with, or topped up for, holds
`graceBlocks` blocks at the current price. How long that lasts while the price
rises depends on when it first does: from a full round later the floor of DESIGN
§10.1 holds, but a raise in the same block can undercut it, because the price is
above the exponential from the start.
-/
namespace SwarmVolumes.Guarantees.Survival
open Library Source SurvivalFloor

variable {T P : Type} {d : Deployment T P} {msg : Msg} {w w' x : World T P} {batchId : Bytes32}

/-! ## What the registry pays for -/

/-- The calls that fill a batch up to the target: `w` is before, `w'` after. -/
inductive Funded (d : Deployment T P) (msg : Msg) (w w' : World T P) (batchId : Bytes32) : Prop
  | created {chunkSigner : Address} {depth bucketDepth : UInt8} {ttlExpiry : UInt64}
      {immutableBatch : Bool} {id : Bytes32}
      (ok : createVolume d msg w chunkSigner depth bucketDepth ttlExpiry immutableBatch = .ok (id, w'))
      (rides : (w'.store.volumes id).batchId = batchId)
  | toppedUp {id : Bytes32} (ok : triggerOne d msg w id = .ok (.toppedUp, w'))
      (rides : (w.store.volumes id).batchId = batchId)

/-- The price per chunk and block. -/
def price (d : Deployment T P) (w : World T P) : Nat := (d.stamp.lastPrice w.postage).toNat

/-- The batch exists and `graceBlocks` blocks at the current price remain. -/
structure Full (d : Deployment T P) (w : World T P) (batchId : Bytes32) (outpayment : Nat) : Prop where
  read : d.stamp.currentTotalOutPayment w.block w.postage = some outpayment
  present : (d.stamp.batches w.postage batchId).owner ≠ 0
  balance : (d.stamp.batches w.postage batchId).normalisedBalance =
    outpayment + price d w * d.graceBlocks.toNat

theorem triggerOne_full (documented : d.Documented) {id : Bytes32}
    (ok : triggerOne d msg w id = .ok (.toppedUp, w')) :
    ∃ outpayment, Full d w' (w.store.volumes id).batchId outpayment := by
  obtain ⟨block, ⟨other, _⟩ | ⟨_, outpayment, due, raised⟩⟩ := triggerOne_outside documented ok
  · exact absurd rfl other
  have short : d.remaining w.postage (w.store.volumes id) outpayment ≤ d.target w.postage := by
    cases triggerOne_end ok with
    | toppedUp due' auth short =>
      obtain rfl := Option.some.inj (due.read.symm.trans due'.read)
      exact short.le
  refine ⟨outpayment, ?_, ?_, ?_⟩
  · rw [block, raised.outpayment]
    exact due.read
  · rw [raised.owner]
    exact due.present
  · have alive := due.alive
    rw [raised.balance, price, raised.price]
    change _ = outpayment + d.target w.postage
    unfold Deployment.deficit
    unfold Deployment.remaining Deployment.batchOf at short ⊢
    omega

theorem createBatch_value {chunkSigner : Address} {perChunk : Nat} {depth bucketDepth : UInt8}
    {immutableBatch : Bool}
    (ok : createBatch d msg w chunkSigner perChunk depth bucketDepth immutableBatch =
      .ok (batchId, w')) :
    ∃ reply, d.stamp.createBatch w.block w.bzz w.postage d.address chunkSigner perChunk depth
        bucketDepth w.store.nextNonce immutableBatch = some reply ∧ reply.value = batchId ∧
      w'.block = w.block ∧ w'.postage = reply.postage := by
  obtain ⟨reply, called, ok⟩ := bind_success ok
  dsimp only at ok
  split at ok
  · cases ok
  · cases ok
    exact ⟨reply, orRevert_success called, rfl, rfl, rfl⟩

/-- The one PostageStamp call of a creation. -/
theorem createVolume_made {chunkSigner : Address} {depth bucketDepth : UInt8} {ttlExpiry : UInt64}
    {immutableBatch : Bool} {id : Bytes32}
    (ok : createVolume d msg w chunkSigner depth bucketDepth ttlExpiry immutableBatch = .ok (id, w')) :
    chunkSigner ≠ 0 ∧ ∃ bzz bucketDepth nonce immutableBatch reply,
      d.stamp.createBatch w.block bzz w.postage d.address chunkSigner (d.target w.postage) depth
        bucketDepth nonce immutableBatch = some reply ∧
      (w'.store.volumes id).batchId = reply.value ∧ w'.block = w.block ∧
      w'.postage = reply.postage := by
  obtain ⟨batchId, effect⟩ := createVolume_effect ok
  cases effect with
  | created auth signer shifted pulled approved made recorded =>
    obtain ⟨reply, called, rfl, block, postage⟩ := createBatch_value made
    obtain ⟨_, _, block₁, postage₁⟩ := pull_frame pulled
    obtain ⟨_, _, block₂, postage₂⟩ := approve_frame approved
    obtain ⟨_, _, entered⟩ := Storage.recordVolume_success recorded
    rw [block₂, block₁, postage₂, postage₁] at called
    refine ⟨signer, _, _, _, _, reply, called, ?_, block.trans (block₂.trans block₁), postage⟩
    rw [World.emit_store]
    dsimp only
    rw [entered, Storage.enter_volumes, if_pos rfl]
    rfl

theorem createVolume_full (credits : d.stamp.Credits) {chunkSigner : Address}
    {depth bucketDepth : UInt8} {ttlExpiry : UInt64} {immutableBatch : Bool} {id : Bytes32}
    (ok : createVolume d msg w chunkSigner depth bucketDepth ttlExpiry immutableBatch = .ok (id, w')) :
    ∃ outpayment, Full d w' (w'.store.volumes id).batchId outpayment := by
  obtain ⟨signer, _, _, _, _, reply, called, rides, block, postage⟩ := createVolume_made ok
  obtain ⟨outpayment, read, owner, balance⟩ := credits.createBatch_batch called
  obtain ⟨same, unmoved⟩ := credits.createBatch_frame called
  refine ⟨outpayment, ?_, ?_, ?_⟩
  · rw [postage, block, same]
    exact read
  · rw [rides, postage]
    exact owner ▸ signer
  · rw [rides, price, postage, unmoved]
    exact balance

theorem funded_full (documented : d.Documented) (credits : d.stamp.Credits)
    (funded : Funded d msg w w' batchId) : ∃ outpayment, Full d w' batchId outpayment := by
  cases funded with
  | created ok rides => exact rides ▸ createVolume_full credits ok
  | toppedUp ok rides => exact rides ▸ triggerOne_full documented ok

/-! ## How long it lasts -/

/-- `prices s` is in force from block `s` after the payment to the next one: it changes
at most once in any round, by `K_max` at most, and not before block `phase`. -/
structure Schedule (phase start : Nat) (prices : Nat → Nat) : Prop where
  limited : RateLimited newPrice roundLength start prices
  late : LateBy phase start prices

/-- The world `n` blocks after `w`: PostageStamp has charged these prices, and no one
has touched the batch. -/
structure Elapsed (d : Deployment T P) (w : World T P) (batchId : Bytes32) (prices : Nat → Nat)
    (n : Nat) (x : World T P) : Prop where
  block : x.block.number = w.block.number + n
  charged : d.stamp.currentTotalOutPayment x.block x.postage =
    (d.stamp.currentTotalOutPayment w.block w.postage).map (· + total prices n)
  untouched : d.stamp.batches x.postage batchId = d.stamp.batches w.postage batchId

/-- The batch is live then. -/
def LiveAfter (d : Deployment T P) (w : World T P) (batchId : Bytes32) (prices : Nat → Nat)
    (n : Nat) : Prop :=
  ∃ outpayment, d.stamp.currentTotalOutPayment w.block w.postage = some outpayment ∧
    (d.stamp.batches w.postage batchId).owner ≠ 0 ∧
    outpayment + total prices n < (d.stamp.batches w.postage batchId).normalisedBalance

theorem Elapsed.live_iff {prices : Nat → Nat} {n : Nat} (elapsed : Elapsed d w batchId prices n x) :
    (∃ outpayment, Live d x batchId outpayment) ↔ LiveAfter d w batchId prices n := by
  constructor
  · rintro ⟨outpayment, live⟩
    have read := live.read
    have alive := live.alive
    rw [elapsed.charged, Option.map_eq_some_iff] at read
    obtain ⟨before, earlier, rfl⟩ := read
    rw [elapsed.untouched] at alive
    exact ⟨before, earlier, elapsed.untouched ▸ live.present, alive⟩
  · rintro ⟨before, earlier, present, alive⟩
    refine ⟨before + total prices n, ?_, elapsed.untouched ▸ present, ?_⟩
    · rw [elapsed.charged, earlier]
      rfl
    · rw [elapsed.untouched]
      exact alive

/-- Whatever the price does from block `phase` on, the batch is live at every block
before the floor. -/
def Survives (d : Deployment T P) (w : World T P) (batchId : Bytes32) (floorBlocks phase : Nat) :
    Prop :=
  ∀ prices, Schedule phase (price d w) prices →
    ∀ n < floorBlocks, LiveAfter d w batchId prices n

/-- The steepest schedule leaves something of `graceBlocks` blocks' worth in the last
block before the floor. -/
def Lasting (start graceBlocks floorBlocks phase : Nat) : Prop :=
  total (steepest newPrice roundLength phase start) (floorBlocks - 1) < start * graceBlocks

instance (start graceBlocks floorBlocks phase : Nat) :
    Decidable (Lasting start graceBlocks floorBlocks phase) :=
  inferInstanceAs (Decidable (_ < _))

theorem newPrice_mono : Monotone newPrice :=
  fun _ _ le => Nat.div_le_div_right (Nat.mul_le_mul_right _ le)

theorem le_newPrice (n : Nat) : n ≤ newPrice n := by
  unfold newPrice kmaxNum priceBase
  omega

theorem newPrice_le (n : Nat) : (newPrice n : ℝ) ≤ kmaxNum / priceBase * n := by
  refine Nat.cast_div_le.trans (le_of_eq ?_)
  push_cast
  ring

theorem Full.live_iff {outpayment : Nat} (full : Full d w batchId outpayment) (prices : Nat → Nat)
    (n : Nat) : LiveAfter d w batchId prices n ↔ total prices n < price d w * d.graceBlocks.toNat := by
  constructor
  · rintro ⟨before, read, _, alive⟩
    obtain rfl := Option.some.inj (read.symm.trans full.read)
    rw [full.balance] at alive
    omega
  · intro left
    refine ⟨outpayment, full.read, full.present, ?_⟩
    rw [full.balance]
    omega

/-- The condition is exact: of all schedules the steepest is the worst, and of all
blocks the last before the floor. -/
theorem Full.survives_iff {outpayment : Nat} (full : Full d w batchId outpayment)
    (priced : 0 < price d w) (grace : 0 < d.graceBlocks.toNat) (floorBlocks phase : Nat) :
    Survives d w batchId floorBlocks phase ↔
      Lasting (price d w) d.graceBlocks.toNat floorBlocks phase := by
  have worst := limited_below_iff newPrice_mono le_newPrice (by decide : 0 < roundLength) phase
    (price d w) (price d w * d.graceBlocks.toNat) (floorBlocks - 1)
  rw [Lasting, ← worst]
  constructor
  · intro survives prices limited late
    rcases Nat.eq_zero_or_pos floorBlocks with rfl | some
    · exact Nat.mul_pos priced grace
    · exact (full.live_iff prices _).mp (survives prices ⟨limited, late⟩ _ (Nat.sub_one_lt some.ne'))
  · intro below prices schedule n early
    rw [full.live_iff]
    exact (total_le_total (Nat.le_sub_one_of_lt early)).trans_lt
      (below prices schedule.limited schedule.late)

/-- A full round before the first raise keeps the staircase of prices below the
exponential of DESIGN §10.1. -/
theorem lasting_of_round {graceBlocks : UInt64} (grace : 0 < graceBlocks.toNat) {floorBlocks : Nat}
    (returned : computeFloorBlocks graceBlocks = some floorBlocks) {start : Nat} (priced : 0 < start)
    {phase : Nat} (late : roundLength ≤ phase) :
    Lasting start graceBlocks.toNat floorBlocks phase := by
  obtain ⟨computed, same, spec⟩ := computeFloorBlocks_spec grace
  obtain rfl := Option.some.inj (same.symm.trans returned)
  have more : (1 : ℝ) < kmaxNum / priceBase := by norm_num [kmaxNum, priceBase]
  have staircase := total_steepest_le more newPrice_le (by decide) late start (computed - 1)
  have charge : (0 : ℝ) < start := Nat.cast_pos.mpr priced
  have budget : (total (steepest newPrice roundLength phase start) (computed - 1) : ℝ) <
      start * graceBlocks.toNat := staircase.trans_lt (mul_lt_mul_of_pos_left spec charge)
  exact_mod_cast budget

/-- Right after a volume was created or topped up at a positive price, its batch
survives the floor exactly when the steepest schedule leaves it something; with a
full round before the first raise it always does. -/
theorem survival_floor (documented : d.Documented) (credits : d.stamp.Credits)
    (funded : Funded d msg w w' batchId) (priced : 0 < price d w') (grace : 0 < d.graceBlocks.toNat) :
    ∃ floorBlocks, computeFloorBlocks d.graceBlocks = some floorBlocks ∧
      (∀ phase, Survives d w' batchId floorBlocks phase ↔
        Lasting (price d w') d.graceBlocks.toNat floorBlocks phase) ∧
      (∀ phase, roundLength ≤ phase → Survives d w' batchId floorBlocks phase) ∧
      ∀ prices n x, Elapsed d w' batchId prices n x →
        ((∃ outpayment, Live d x batchId outpayment) ↔ LiveAfter d w' batchId prices n) := by
  obtain ⟨outpayment, full⟩ := funded_full documented credits funded
  obtain ⟨floorBlocks, returned, _⟩ := computeFloorBlocks_spec grace
  have exact_ := full.survives_iff priced grace floorBlocks
  refine ⟨floorBlocks, returned, exact_, fun phase late => ?_, fun _ _ _ elapsed => elapsed.live_iff⟩
  exact (exact_ phase).mpr (lasting_of_round grace returned priced late)

open Sample (owner first enrolled)

/-- The sample volume after its first trigger. -/
def topped : World Reference.Ledger Reference.Office :=
  transact Sample.deployment ⟨0xD, 5⟩ enrolled (.trigger first)

theorem topped_funded : Funded Sample.deployment ⟨0xD, 5⟩ enrolled topped Sample.batch := by
  have ok : triggerOne Sample.deployment ⟨0xD, 5⟩ enrolled first = .ok (.toppedUp, topped) := rfl
  exact .toppedUp ok rfl

/-- Ten blocks of grace are too few for a raise to matter: nine are safe. -/
theorem survival_floor_sample : Survives Sample.deployment topped Sample.batch 9 0 := by
  obtain ⟨floorBlocks, returned, survives, _⟩ :=
    survival_floor Sample.documented Reference.stamp_credits topped_funded (by decide) (by decide)
  have nine : computeFloorBlocks Sample.deployment.graceBlocks = some 9 := by decide +kernel
  obtain rfl := Option.some.inj (nine.symm.trans returned)
  exact (survives 0).mpr (by decide)

/-! ## A raise in the same block -/

/-- The deployed grace period, and a price at which raises are hardly rounded. -/
def gnosis : Deployment Reference.Ledger Reference.Office :=
  { Sample.deployment with graceBlocks := 17280 }

def opening : World Reference.Ledger Reference.Office :=
  { Sample.genesis with
    bzz := { Sample.ledger with balances := fun a => if a = Sample.payer then 2 ^ 64 else 0 }
    postage := { Sample.office with lastPrice := 100000 } }

/-- The owner's account is active. -/
def opened : World Reference.Ledger Reference.Office := (play gnosis opening (Sample.calls.take 2)).2

def created : World Reference.Ledger Reference.Office :=
  transact gnosis ⟨owner, 4⟩ opened (.createVolume 0xC 18 17 0 false)

def createdBatch : Bytes32 := (created.store.volumes first).batchId

theorem created_funded : Funded gnosis ⟨owner, 4⟩ opened created createdBatch := by
  have ok : createVolume gnosis ⟨owner, 4⟩ opened 0xC 18 17 0 false = .ok (first, created) := rfl
  exact .created ok rfl

/-- With the first raise in the block of the creation and one in every round from then
on, 16536 blocks cost more than the 17280 that were paid for. -/
theorem not_lasting : ¬ Lasting 100000 17280 16537 0 := by
  have blocks := total_steepest newPrice 100000 108 (by decide : 120 ≤ roundLength)
  have cost : 100000 * 17280 ≤
      periods newPrice roundLength 108 100000 + 120 * newPrice^[109] 100000 := by decide +kernel
  rw [← blocks] at cost
  exact Nat.not_lt.mpr cost

/-- A volume created at that price is not live at every block before the floor. -/
theorem early_raise_undercuts_floor :
    Run gnosis anything opening (play gnosis opening (Sample.calls.take 2)).1 opened ∧
    Funded gnosis ⟨owner, 4⟩ opened created createdBatch ∧ price gnosis created = 100000 ∧
    computeFloorBlocks gnosis.graceBlocks = some 16537 ∧
    ¬ Survives gnosis created createdBatch 16537 0 := by
  have priced : price gnosis created = 100000 := by decide
  obtain ⟨outpayment, full⟩ := funded_full ⟨by decide, by decide, Reference.bzz_documented,
    Reference.stamp_documented⟩ Reference.stamp_credits created_funded
  refine ⟨play_run anything_refl (by decide), created_funded, priced, by decide +kernel, ?_⟩
  rw [full.survives_iff (by rw [priced]; decide) (by decide), priced]
  exact not_lasting

end SwarmVolumes.Guarantees.Survival
