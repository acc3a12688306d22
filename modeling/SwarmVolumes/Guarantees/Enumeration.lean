import SwarmVolumes.Guarantees.ActiveSet
import SwarmVolumes.Guarantees.VolumeIdentity
import SwarmVolumes.Source.Keeper.Collect

/-!
# Keeper enumeration

Paging through the active index at one block yields one view for each Active
volume, whatever the page size, as long as a page size is a `uint256` and the
registry never held 2^32 Active volumes at once. A 32-bit `activeIndex` wraps
there: the last section runs a registry past it and loses a volume.
-/
namespace SwarmVolumes.Guarantees.Enumeration
open Library Source Source.Keeper ActiveSet

variable {T P : Type} {d : Deployment T P} {outside : World T P → World T P → Prop}
variable {w₀ w : World T P} {es : List (Entry T P)}
variable {ω : Type} {client : Client ω} {blockNumber : BitVec 256} {pageSize : Nat}

/-- One view for each Active volume, in the order of the active list, each what
`getVolume` answers for its ID. -/
def Complete (s : Storage) (answer : Except Thrown (List VolumeView)) : Prop :=
  ∃ views, answer = .ok views ∧
    views.map VolumeView.volumeId = s.activeVolumeIds ∧
    (views.map VolumeView.volumeId).Nodup ∧
    (∀ id, id ∈ views.map VolumeView.volumeId ↔ (s.volumes id).status = .active) ∧
    ∀ view ∈ views, view = getVolume s view.volumeId

/-- The views of a represented active list are complete. -/
theorem complete_of_represented {s : Storage} (rep : Represented s) :
    Complete s (.ok (s.activeVolumeIds.map (getVolume s))) := by
  have ids : (s.activeVolumeIds.map (getVolume s)).map VolumeView.volumeId = s.activeVolumeIds := by
    rw [List.map_map]
    exact List.map_id _
  refine ⟨_, rfl, ids, ?_, fun id => ?_, ?_⟩
  · rw [ids]
    exact rep.indexed.nodup
  · rw [ids]
    exact rep.listed id
  · intro view member
    obtain ⟨id, _, rfl⟩ := List.mem_map.mp member
    rfl

/-- Whatever was called before, the enumeration at one block returns exactly one
view per Active volume. -/
theorem enumeration_complete (deployed : Deployed d w₀) (run : Run d outside w₀ es w)
    (few : ∀ e ∈ es, Few e.before.store) (fewNow : Few w.store)
    (pinned : Pinned client d.address blockNumber w.store) (positive : 1 ≤ pageSize)
    (word : pageSize < 2 ^ 256) (x : ω) :
    Complete w.store (collectActiveVolumes client d.address pageSize blockNumber x).1 := by
  have rep := (run_represented deployed run few).1
  have short : w.store.activeVolumeIds.length < 2 ^ 32 := by
    rw [Few, ← rep.count] at fewNow
    exact fewNow
  rw [collectActiveVolumes_ok pinned short positive word]
  exact complete_of_represented rep

/-! ## A client of one state -/

/-- A client that reads the storage `s` and can do nothing else. -/
def reader (s : Storage) : Client Unit where
  now _ := 0
  getBlockNumber x := (.error (.error "offline"), x)
  getActiveVolumeCount _ _ x := (.ok (getActiveVolumeCount s), x)
  getActiveVolumes _ _ args x :=
    if ∀ page ∈ args, Encodable page then
      match args.mapM fun page => getActiveVolumes s page.1 page.2 with
      | .ok views => (.ok views, x)
      | .error _ => (.error (.error "execution reverted"), x)
    else (.error (.error "integer out of range"), x)
  getVolumes _ _ ids x := (.ok ⟨ids.map (getVolume s), List.length_map ..⟩, x)
  readNonceAndFees x := (.error (.error "offline"), x)
  simulateContract _ _ x := (.error (.error "offline"), x)
  estimateContractGas _ _ x := (.error (.error "offline"), x)
  writeContract _ x := (.error (.error "offline"), x)
  waitForTransactionReceipt _ _ _ x := (.error (.error "offline"), x)

theorem reader_pinned (s : Storage) (registry : Address) : Pinned (reader s) registry blockNumber s where
  count _ := rfl
  pages args x views encodable answered := by
    dsimp only [reader]
    rw [if_pos encodable, answered]
  unencodable args x stray := by
    obtain ⟨page, member, wide⟩ := stray
    refine ⟨.error "integer out of range", ?_⟩
    dsimp only [reader]
    rw [if_neg fun all => wide (all page member)]

theorem sample_few : Few Sample.final.store := by
  have run : Run Sample.deployment anything Sample.genesis Sample.entries Sample.final :=
    Sample.run anything_refl
  have few := few_of_count Sample.deployed run (by decide)
  have one : getActiveVolumeCount Sample.final.store = 1 := by decide
  rw [Few, ← (run_represented Sample.deployed run few).1.count, one]
  decide

theorem enumeration_complete_sample : Complete Sample.final.store
    (collectActiveVolumes (reader Sample.final.store) Sample.deployment.address 2 7 ()).1 := by
  have run : Run Sample.deployment anything Sample.genesis Sample.entries Sample.final :=
    Sample.run anything_refl
  have few := few_of_count Sample.deployed run (by decide)
  exact enumeration_complete Sample.deployed run few sample_few (reader_pinned _ _) (by decide)
    (by decide) ()

/-! ## Past 32 bits -/

open Sample (deployment owner payer batch office genesis)

/-- The owner's volume IDs in the order of registration. -/
def volumeAt (k : Nat) : Bytes32 := deployment.volumeId owner (UInt64.ofNat k)

theorem volumeAt_inj {j k : Nat} (first : j < 2 ^ 64) (second : k < 2 ^ 64)
    (same : volumeAt j = volumeAt k) : j = k := by
  have nonces := (VolumeIdentity.sample_injective _ _ _ _ same).2
  rw [← UInt64.toNat_inj, UInt64.toNat_ofNat_of_lt' first, UInt64.toNat_ofNat_of_lt' second] at nonces
  exact nonces

/-- The world after the owner registered the batch `n` times. -/
structure Crowd (n : Nat) (w : World Reference.Ledger Reference.Office) : Prop where
  block : w.block = genesis.block
  postage : w.postage = office
  account : w.store.accounts owner = ⟨payer, true, UInt64.ofNat n⟩
  ids : w.store.activeVolumeIds = (List.range n).map volumeAt
  records : ∀ k < n, (w.store.volumes (volumeAt k)).owner = owner ∧
    (w.store.volumes (volumeAt k)).status = .active ∧
    (w.store.volumes (volumeAt k)).activeIndex = UInt32.ofNat k
  unused : ∀ id, (∀ k < n, id ≠ volumeAt k) → (w.store.volumes id).status = .none

/-- The admission of one more registration. -/
def admitted (n : Nat) : Admission := ⟨volumeAt n, owner, batch, 0xC, 20, 0⟩

variable {n : Nat} {v : World Reference.Ledger Reference.Office}

theorem admitted_volumes (s : Storage) (n timestamp : Nat) (x : Bytes32) :
    (s.enter (admitted n) timestamp).volumes x = if x = volumeAt n then
      (admitted n).record timestamp (UInt32.ofNat s.activeVolumeIds.length) else s.volumes x :=
  Storage.enter_volumes ..

theorem admitted_account (s : Storage) (n timestamp : Nat) :
    (s.enter (admitted n) timestamp).accounts owner =
      { s.accounts owner with nonce := (s.accounts owner).nonce + 1 } :=
  (Storage.enter_accounts ..).trans (if_pos rfl)

theorem Crowd.registers (crowd : Crowd n v) (room : n < 2 ^ 64) :
    ∃ v', execute deployment ⟨owner, 4⟩ v (.registerVolume batch 0) = .ok (some (volumeAt n), v') ∧
      v'.block = v.block ∧ v'.postage = v.postage ∧
      v'.store = v.store.enter (admitted n) v.block.timestamp := by
  have free : (v.store.volumes (volumeAt n)).status = .none := by
    apply crowd.unused
    intro k before same
    exact absurd (volumeAt_inj room (by omega) same) (by omega)
  have nonce : deployment.volumeId owner (v.store.accounts owner).nonce = volumeAt n := by
    rw [crowd.account]
    rfl
  have recorded : v.store.recordVolume deployment owner v.block.timestamp batch 0xC 20 0 =
      .ok (volumeAt n, v.store.enter (admitted n) v.block.timestamp) := by
    unfold Storage.recordVolume
    simp only [nonce, Storage.setAccount_volumes]
    exact if_neg (by simp [free])
  have active : (v.store.accounts owner).active = true := by
    rw [crowd.account]
  have snapshot : deployment.stamp.batches v.postage batch = ⟨0xC, 20, 16, false, 5, 100⟩ := by
    rw [crowd.postage]
    rfl
  have read : deployment.stamp.currentTotalOutPayment v.block v.postage = some 0 := by
    rw [crowd.postage, crowd.block]
    rfl
  have deep : deployment.stamp.minimumBucketDepth v.postage = 16 := by
    rw [crowd.postage]
    rfl
  refine ⟨{ v with store := v.store.enter (admitted n) v.block.timestamp }.emit ⟨owner, 4⟩
    (.volumeImported (volumeAt n) owner batch 0xC 20 0 5), ?_, rfl, rfl, rfl⟩
  · simp only [execute, registerVolume, registerBatch, active, snapshot, read, deep, recordVolume,
      recorded, orRevert_some, ok_bind]
    rfl

/-- One more registration makes a larger crowd. -/
theorem Crowd.grow (crowd : Crowd n v) (room : n < 2 ^ 64)
    {v' : World Reference.Ledger Reference.Office} (block : v'.block = v.block)
    (postage : v'.postage = v.postage)
    (store : v'.store = v.store.enter (admitted n) v.block.timestamp) : Crowd (n + 1) v' := by
  have others : ∀ k < n, volumeAt k ≠ volumeAt n := by
    intro k before same
    exact absurd (volumeAt_inj (by omega) room same) (by omega)
  constructor
  · exact block.trans crowd.block
  · exact postage.trans crowd.postage
  · rw [store, admitted_account, crowd.account, UInt64.ofNat_add]
    rfl
  · rw [store, Storage.enter_ids, crowd.ids, List.range_succ, List.map_append]
    rfl
  · intro k before
    rw [store, admitted_volumes]
    rcases Nat.lt_or_eq_of_le (Nat.le_of_lt_succ before) with earlier | rfl
    · rw [if_neg (others k earlier)]
      exact crowd.records k earlier
    · rw [if_pos rfl, crowd.ids, List.length_map, List.length_range]
      exact ⟨rfl, rfl, rfl⟩
  · intro id new
    rw [store, admitted_volumes, if_neg (new n (by omega))]
    apply crowd.unused
    intro k before
    exact new k (by omega)

theorem Crowd.issued (crowd : Crowd n v) {id : Bytes32}
    (isActive : (v.store.volumes id).status = .active) : ∃ k, k < n ∧ id = volumeAt k := by
  by_contra outside
  have unused := crowd.unused id fun k before same => outside ⟨k, before, same⟩
  rw [unused] at isActive
  cases isActive

/-- A call that follows the last one at once. -/
theorem called {msg : Msg} {call : Call} {value : Option Bytes32}
    {v' : World Reference.Ledger Reference.Office} (external : External deployment msg.sender)
    (executed : execute deployment msg v call = .ok (value, v')) :
    CallStep deployment anything v ⟨v, msg, call, .ok (value, v')⟩ v' :=
  ⟨.refl v, trivial, external, executed.symm, rfl⟩

/-- Crowds of every size are reached. -/
theorem crowd_reached (n : Nat) (room : n ≤ 2 ^ 64) :
    ∃ es v, Run deployment anything genesis es v ∧ Crowd n v := by
  induction n with
  | zero =>
    have external : ∀ c ∈ Sample.calls.take 2, External deployment c.1.sender := by decide
    refine ⟨_, _, play_run anything_refl external, ?_⟩
    constructor
    · rfl
    · rfl
    · rfl
    · rfl
    · intro k before
      omega
    · intro id _
      rfl
  | succ n ih =>
    obtain ⟨es, v, run, crowd⟩ := ih (by omega)
    obtain ⟨v', executed, block, postage, store⟩ := crowd.registers room
    have external : External deployment owner := by decide
    exact ⟨_, v', run.snoc (called external executed), crowd.grow room block postage store⟩

/-- `_retire` of the last listed ID by a wrapped position 0: the ID takes the
first place and stays listed there. -/
theorem retire_wrapped {s : Storage} {id : Bytes32} {before : List Bytes32} {head : Bytes32}
    (ids : s.activeVolumeIds = head :: before ++ [id]) (wrapped : (s.volumes id).activeIndex = 0) :
    ∃ s', s.retire id = .ok s' ∧ s'.activeVolumeIds = id :: before ∧
      ∀ x, x ≠ id → s'.volumes x = s.volumes x := by
  have bound : (s.volumes id).activeIndex.toNat < s.activeVolumeIds.length := by
    simp [ids, wrapped]
  obtain ⟨s', ok⟩ := Storage.retire_total bound
  refine ⟨s', ok, ?_⟩
  unfold Storage.retire Storage.moveLast Storage.popActive at ok
  simp [ids, wrapped, Word.sub?] at ok
  subst ok
  constructor
  · rw [← List.cons_append]
    exact List.dropLast_concat
  · intro x different
    rw [Storage.setVolume_other different]
    dsimp only
    rw [Storage.setVolume_other different]
    exact Storage.setVolume_other different

theorem deletes {id : Bytes32} {s' : Storage} (own : (v.store.volumes id).owner = owner)
    (isActive : (v.store.volumes id).status = .active) (retired : v.store.retire id = .ok s') :
    ∃ v', execute deployment ⟨owner, 5⟩ v (.deleteVolume id) = .ok (none, v') ∧ v'.store = s' := by
  refine ⟨{ v with store := s' }.emit ⟨owner, 5⟩ (.volumeRetired id .ownerDeleted), ?_, rfl⟩
  simp [execute, deleteVolume, own, isActive, retire, retired]
  rfl

theorem crowd_ids (m : Nat) : (List.range (m + 2)).map volumeAt =
    volumeAt 0 :: (List.range m).map (fun k => volumeAt (k + 1)) ++ [volumeAt (m + 1)] := by
  rw [List.range_succ, List.map_append, List.range_succ_eq_map, List.map_cons, List.map_map]
  rfl

/-- With 2^32 + 1 volumes Active, the position of the last is 0. Deleting it
unlists the first, and deleting another leaves fewer than 2^32. -/
theorem crowded_registry_loses_volume :
    ∃ es v, Run deployment anything genesis es v ∧ Few v.store ∧
      ∀ answer, ¬ Complete v.store answer := by
  obtain ⟨m, size⟩ : ∃ m, m + 1 = 2 ^ 32 := ⟨2 ^ 32 - 1, by decide⟩
  have wraps : UInt32.ofNat (m + 1) = 0 := by
    rw [size]
    rfl
  obtain ⟨es, v, run, crowd⟩ := crowd_reached (m + 2) (by omega)
  have apart : ∀ j < m + 2, ∀ k < m + 2, j ≠ k → volumeAt j ≠ volumeAt k := by
    intro j first k second different same
    exact different (volumeAt_inj (by omega) (by omega) same)
  have last := crowd.records (m + 1) (by omega)
  have ids := crowd.ids.trans (crowd_ids m)
  obtain ⟨s₁, retired, ids₁, kept⟩ := retire_wrapped ids (last.2.2.trans wraps)
  obtain ⟨v₁, deleted, rfl⟩ := deletes last.1 last.2.1 retired
  have second := crowd.records 1 (by omega)
  rw [← kept (volumeAt 1) (apart 1 (by omega) _ (by omega) (by omega))] at second
  have listedSecond : (v₁.store.volumes (volumeAt 1)).activeIndex.toNat <
      v₁.store.activeVolumeIds.length := by
    rw [second.2.2, ids₁, List.length_cons, List.length_map, List.length_range, size]
    decide
  obtain ⟨s₂, retired₂⟩ := Storage.retire_total listedSecond
  obtain ⟨v₂, deleted₂, rfl⟩ := deletes second.1 second.2.1 retired₂
  obtain ⟨_, _, records₁, _⟩ := Storage.retire_frame retired
  obtain ⟨_, _, records₂, listed⟩ := Storage.retire_frame retired₂
  refine ⟨_, v₂, (run.snoc (called (by decide) deleted)).snoc (called (by decide) deleted₂), ?_, ?_⟩
  · have inside : active v₂.store ⊆ ↑(((Finset.range (m + 1)).erase 1).image volumeAt) := by
      intro id isActive
      change (v₂.store.volumes id).status = .active at isActive
      rw [(records₂ id).2, (records₁ id).2] at isActive
      split at isActive
      · cases isActive
      · rename_i notSecond
        split at isActive
        · cases isActive
        · rename_i notLast
          obtain ⟨k, before, rfl⟩ := crowd.issued isActive
          have notOne : k ≠ 1 := fun same => notSecond (congrArg volumeAt same)
          have earlier : k ≠ m + 1 := fun same => notLast (congrArg volumeAt same)
          simp only [Finset.coe_image, Set.mem_image, Finset.mem_coe, Finset.mem_erase,
            Finset.mem_range]
          exact ⟨k, ⟨notOne, by omega⟩, rfl⟩
    have one : 1 ∈ Finset.range (m + 1) := Finset.mem_range.mpr (by omega)
    calc (active v₂.store).ncard
        ≤ (((Finset.range (m + 1)).erase 1).image volumeAt).card := by
          rw [← Set.ncard_coe_finset]
          exact Set.ncard_le_ncard inside
      _ ≤ ((Finset.range (m + 1)).erase 1).card := Finset.card_image_le
      _ = m := by rw [Finset.card_erase_of_mem one, Finset.card_range, Nat.add_sub_cancel]
      _ < 2 ^ 32 := by omega
  · rintro answer ⟨views, _, order, _, complete, _⟩
    have notSecond := apart 0 (by omega) 1 (by omega) (by omega)
    have notLast := apart 0 (by omega) (m + 1) (by omega) (by omega)
    have isActive : (v₂.store.volumes (volumeAt 0)).status = .active := by
      rw [(records₂ _).2, if_neg notSecond, (records₁ _).2, if_neg notLast]
      exact (crowd.records 0 (by omega)).2.1
    have member := (complete (volumeAt 0)).mpr isActive
    rw [order] at member
    have member := listed member
    rw [ids₁, List.mem_cons, List.mem_map] at member
    rcases member with same | ⟨k, counted, same⟩
    · exact notLast same
    · have bound := List.mem_range.mp counted
      exact apart (k + 1) (by omega) 0 (by omega) (by omega) same

/-- Completeness can fail on either side: for a registry that once held too many
Active volumes, and for a page size that is no `uint256`. -/
theorem enumeration_incomplete :
    (∃ es v, Run deployment anything genesis es v ∧ Few v.store ∧
      ∀ pageSize, ¬ Complete v.store
        (collectActiveVolumes (reader v.store) deployment.address pageSize 7 ()).1) ∧
    Run deployment anything genesis Sample.entries Sample.final ∧ Few Sample.final.store ∧
      ¬ Complete Sample.final.store
        (collectActiveVolumes (reader Sample.final.store) deployment.address (2 ^ 256) 7 ()).1 := by
  refine ⟨?_, Sample.run anything_refl, sample_few, ?_⟩
  · obtain ⟨es, v, run, few, incomplete⟩ := crowded_registry_loses_volume
    exact ⟨es, v, run, few, fun pageSize => incomplete _⟩
  · have one : getActiveVolumeCount Sample.final.store ≠ 0 := by decide
    have pinned : Pinned (reader Sample.final.store) deployment.address 7 Sample.final.store :=
      reader_pinned ..
    obtain ⟨e, thrown⟩ := collectActiveVolumes_unencodable pinned one
      (by decide : Word.modulus ≤ 2 ^ 256) ()
    rw [thrown]
    rintro ⟨views, ok, _⟩
    cases ok

end SwarmVolumes.Guarantees.Enumeration
