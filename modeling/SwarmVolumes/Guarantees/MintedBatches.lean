import SwarmVolumes.Source.Registry.Logs
import SwarmVolumes.Source.Registry.Sample
import Mathlib.Data.FinEnum

/-!
# Minted batches

`nextNonce` counts the volumes created so far, and the k-th of them rides on the batch
with the hash of the registry's address and k. Its increment is unchecked, but it never
comes round: each creation takes a volume ID of its own, and there are only 2^256.
-/
namespace SwarmVolumes.Guarantees.MintedBatches
open Library Source

variable {T P : Type} {d : Deployment T P} {msg : Msg} {w w' : World T P} {e : Event}

/-- The volume a creation made and the batch it minted for it. -/
def created : Event → Option (Bytes32 × Bytes32)
  | .volumeCreated volumeId _ batchId _ _ _ => some (volumeId, batchId)
  | _ => none

/-- The ID PostageStamp derives for the registry's batch number `n`. -/
def mint (d : Deployment T P) (n : BitVec 256) : Bytes32 :=
  d.keccak256 [abiAddress d.address, n]

theorem createBatch_minted {chunkSigner : Address} {perChunk : Nat} {depth bucketDepth : UInt8}
    {immutableBatch : Bool} {batchId : Bytes32}
    (ok : createBatch d msg w chunkSigner perChunk depth bucketDepth immutableBatch =
      .ok (batchId, w')) : batchId = mint d w.store.nextNonce := by
  obtain ⟨reply, called, ok⟩ := bind_success ok
  dsimp only at ok
  split at ok
  · cases ok
  · rename_i same
    cases ok
    exact not_not.mp same

theorem retire_nextNonce {s s' : Storage} {id : Bytes32} (ok : s.retire id = .ok s') :
    s'.nextNonce = s.nextNonce := by
  unfold Storage.retire at ok
  obtain ⟨last, _, ok⟩ := bind_success ok
  obtain ⟨t, moved, ok⟩ := bind_success ok
  obtain ⟨u, popped, ok⟩ := bind_success ok
  cases ok
  have shifted : t.nextNonce = s.nextNonce := by
    unfold Storage.moveLast at moved
    split at moved
    · cases moved
      rfl
    · obtain ⟨lastId, _, moved⟩ := bind_success moved
      split at moved
      · cases moved
      · cases moved
        rfl
  unfold Storage.popActive at popped
  split at popped
  · cases popped
  · cases popped
    exact shifted

/-- A creation takes the next number; every other effect leaves the counter. -/
theorem effect_mints (effect : Effect d msg w e w') :
    match created e with
    | some (volumeId, batchId) => batchId = mint d w.store.nextNonce ∧
        w'.store.nextNonce = w.store.nextNonce + 1 ∧ (w.store.volumes volumeId).status = .none ∧
        (w'.store.volumes volumeId).status ≠ .none
    | none => w'.store.nextNonce = w.store.nextNonce := by
  cases effect with
  | created auth signer shifted pulled approved made recorded =>
    obtain ⟨store₁, _⟩ := pull_frame pulled
    obtain ⟨store₂, _⟩ := approve_frame approved
    obtain ⟨store₃, _⟩ := createBatch_frame made
    have minted := createBatch_minted made
    obtain ⟨_, unused, entered⟩ := Storage.recordVolume_success recorded
    rw [store₃] at unused
    rw [store₂, store₁] at minted unused
    subst entered
    refine ⟨minted, ?_, unused, ?_⟩
    · rw [← store₁, ← store₂]
      exact congrArg Storage.nextNonce store₃
    · rw [World.emit_store]
      dsimp only
      rw [Storage.enter_volumes, if_pos rfl]
      simp [Admission.record]
  | imported auth live deep recorded =>
    obtain ⟨_, _, entered⟩ := Storage.recordVolume_success recorded
    subst entered
    rfl
  | retired active retired named => exact retire_nextNonce retired
  | toppedUp due auth shifted pulled approved topped =>
    obtain ⟨store₁, _⟩ := pull_frame pulled
    obtain ⟨store₂, _⟩ := approve_frame approved
    obtain ⟨store₃, _⟩ := topUp_frame topped
    exact congrArg Storage.nextNonce (store₃.trans (store₂.trans store₁))
  | _ => rfl

/-- The creations of a run, in order. -/
def creations (w : World T P) : List (Bytes32 × Bytes32) := w.events.filterMap created

variable {outside : World T P → World T P → Prop} {w₀ : World T P} {es : List (Entry T P)}

/-- The counter, the batches minted so far, and the volume IDs in use. -/
structure Minted (d : Deployment T P) (w : World T P) : Prop where
  counter : w.store.nextNonce = BitVec.ofNat 256 (creations w).length
  batches : (creations w).map Prod.snd =
    (List.range (creations w).length).map fun k => mint d (BitVec.ofNat 256 k)
  volumes : ((creations w).map Prod.fst).Nodup
  used : ∀ id ∈ (creations w).map Prod.fst, (w.store.volumes id).status ≠ .none

theorem step_used {sender : Address} {s s' : Storage} {id : Bytes32} (step : StoreStep d sender s e s')
    (used : (s.volumes id).status ≠ .none) : (s'.volumes id).status ≠ .none := by
  cases step with
  | @admitted _ a timestamp nextNonce announced owner auth named unused =>
    rw [Storage.enter_volumes]
    split
    · simp [Admission.record]
    · exact used
  | retired active retired named =>
    rw [((Storage.retire_frame retired).2.2.1 id).2]
    split
    · simp
    · exact used
  | _ => exact used

theorem Minted.step (minted : Minted d w) (effect : Effect d msg w e w') : Minted d w' := by
  have step := effect.store
  have grown : creations w' = creations w ++ (created e).toList := by
    rw [creations, step.2.1, List.filterMap_append]
    cases same : created e with
    | none => simp [creations, same]
    | some pair => simp [creations, same]
  have mints := effect_mints effect
  have still : ∀ id ∈ (creations w).map Prod.fst, (w'.store.volumes id).status ≠ .none :=
    fun id member => step_used step.1 (minted.used id member)
  cases same : created e with
  | none =>
    rw [same] at grown mints
    rw [Option.toList_none, List.append_nil] at grown
    constructor
    · rw [grown]
      exact mints.trans minted.counter
    · rw [grown]
      exact minted.batches
    · rw [grown]
      exact minted.volumes
    · rw [grown]
      exact still
  | some pair =>
    obtain ⟨volumeId, batchId⟩ := pair
    rw [same] at grown mints
    obtain ⟨batch, counter, unused, used⟩ := mints
    rw [Option.toList_some] at grown
    constructor
    · rw [grown, counter, minted.counter, List.length_append, List.length_singleton, BitVec.ofNat_add]
      rfl
    · rw [grown, List.length_append, List.length_singleton, List.range_succ, List.map_append,
        List.map_append, minted.batches, batch, minted.counter]
      rfl
    · rw [grown, List.map_append, List.nodup_append]
      refine ⟨minted.volumes, List.nodup_singleton _, fun a old b new equal => ?_⟩
      rw [List.mem_singleton.mp new] at equal
      rw [equal] at old
      exact minted.used _ old unused
    · intro id member
      rw [grown, List.map_append, List.mem_append] at member
      rcases member with old | new
      · exact still id old
      · rw [List.mem_singleton.mp new]
        exact used

theorem run_minted (deployed : Deployed d w₀) (run : Run d outside w₀ es w) : Minted d w := by
  apply run.invariant_effects (Minted d)
  · have empty : creations w₀ = [] := by
      rw [creations, World.events, deployed.unlogged]
      rfl
    constructor
    · rw [empty, deployed.store]
      rfl
    · simp [empty]
    · simp [empty]
    · simp [empty]
  · intro w w' same _ minted
    have events : creations w' = creations w := by
      rw [creations, World.events_of_logs same.logs, creations]
    obtain ⟨counter, batches, volumes, used⟩ := minted
    rw [← events] at counter batches volumes used
    rw [← same.store] at counter used
    exact ⟨counter, batches, volumes, used⟩
  · intro msg w e w' _ effect minted
    exact minted.step effect

/-- There are no more creations than volume IDs. -/
theorem Minted.few (minted : Minted d w) : (creations w).length ≤ 2 ^ 256 := by
  have bound := minted.volumes.length_le_card
  rwa [List.length_map, ← FinEnum.card_eq_fintypeCard, FinEnum.card_bitVec] at bound

theorem Minted.distinct (injective : ∀ m n : BitVec 256, mint d m = mint d n → m = n)
    (minted : Minted d w) : ((creations w).map Prod.snd).Nodup := by
  have few := minted.few
  rw [minted.batches, List.nodup_map_iff_inj_on List.nodup_range]
  intro m first n second same
  have equal := congrArg BitVec.toNat (injective _ _ same)
  rw [List.mem_range] at first second
  rwa [BitVec.toNat_ofNat, BitVec.toNat_ofNat, Nat.mod_eq_of_lt (by omega),
    Nat.mod_eq_of_lt (by omega)] at equal

/-- In every run the k-th creation mints the batch of number k, and no number comes up
twice. With an injective hash no batch is minted twice, so two volumes created on one batch
are one volume. -/
theorem minted_batches_distinct (deployed : Deployed d w₀) (run : Run d outside w₀ es w) :
    (creations w).map Prod.snd =
      (List.range (creations w).length).map (fun k => mint d (BitVec.ofNat 256 k)) ∧
    w.store.nextNonce = BitVec.ofNat 256 (creations w).length ∧
    (creations w).length ≤ 2 ^ 256 ∧
    ((∀ m n : BitVec 256, mint d m = mint d n → m = n) →
      ((creations w).map Prod.snd).Nodup ∧
      ∀ v v' b, (v, b) ∈ creations w → (v', b) ∈ creations w → v = v') := by
  have minted := run_minted deployed run
  refine ⟨minted.batches, minted.counter, minted.few, fun injective => ?_⟩
  have distinct := minted.distinct injective
  refine ⟨distinct, fun v v' b first second => ?_⟩
  have same := List.inj_on_of_nodup_map distinct first second rfl
  exact congrArg Prod.fst same

theorem minted_batches_distinct_sample :
    creations Sample.final = [(Sample.second, mint Sample.deployment 0)] ∧
    Sample.final.store.nextNonce = 1 ∧ ((creations Sample.final).map Prod.snd).Nodup := by
  have injective : ∀ m n : BitVec 256,
      mint Sample.deployment m = mint Sample.deployment n → m = n := by
    intro m n same
    have first := m.isLt
    have second := n.isLt
    have words := congrArg BitVec.toNat same
    have address : (abiAddress Sample.deployment.address).toNat = 256 := rfl
    simp only [mint, Sample.deployment, Sample.pack, BitVec.toNat_ofNat] at words address
    rw [address] at words
    exact BitVec.eq_of_toNat_eq (by omega)
  have listed : creations Sample.final = [(Sample.second, mint Sample.deployment 0)] := by decide
  obtain ⟨_, counter, _, distinct⟩ :=
    minted_batches_distinct Sample.deployed (Sample.run anything_refl)
  refine ⟨listed, ?_, (distinct injective).1⟩
  rw [counter, listed]
  rfl

end SwarmVolumes.Guarantees.MintedBatches
