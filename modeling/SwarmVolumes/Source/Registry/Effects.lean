import SwarmVolumes.Source.Registry.Inversion

/-!
# Effects

What a successful call did, one event at a time. `Effect` lists the things a
call can do to the world, `StoreStep` what each of them does to storage; a call
is a trace of them (`execute_effects`) with the events its kind may emit
(`Emits`). An invariant of the registry is one case per effect.
-/
namespace SwarmVolumes.Source
open Library

variable {T P : Type} {d : Deployment T P} {msg : Msg} {w w' : World T P}

/-- The status each skip reason reports. -/
inductive SkipGuard : Status → SkipReason → Prop
  | notFound : SkipGuard .none .notFound
  | notActive : SkipGuard .retired .notActive
  | noAuth : SkipGuard .active .noAuth
  | paymentFailed : SkipGuard .active .paymentFailed

theorem SkipGuard.named {status : Status} {reason : SkipReason} (guard : SkipGuard status reason) :
    reason ≠ .none := by
  cases guard with
  | _ => nofun

/-- One event of a call and everything that happens with it. -/
inductive Effect (d : Deployment T P) (msg : Msg) (w : World T P) : Event → World T P → Prop
  | designated (payer : Address) :
      Effect d msg w (.payerDesignated msg.sender payer) (designateFundingWallet msg w payer)
  | activated (owner : Address) (named : w.store.designated owner = msg.sender) :
      Effect d msg w (.accountActivated owner msg.sender)
        ({ w with
          store := w.store.setAccount owner
            { w.store.accounts owner with payer := msg.sender, active := true } }.emit msg
          (.accountActivated owner msg.sender))
  | revoked (owner : Address)
      (allowed : msg.sender = owner ∨ msg.sender = (w.store.accounts owner).payer) :
      Effect d msg w (.accountRevoked owner (w.store.accounts owner).payer msg.sender)
        ({ w with
          store := w.store.setAccount owner { w.store.accounts owner with active := false } }.emit
          msg (.accountRevoked owner (w.store.accounts owner).payer msg.sender))
  | created {chunkSigner : Address} {depth bucketDepth : UInt8} {ttlExpiry : UInt64}
      {immutableBatch : Bool} {amount : Nat} {batchId id : Bytes32} {w₁ w₂ w₃ : World T P}
      {store : Storage}
      (auth : (w.store.accounts msg.sender).active = true) (signer : chunkSigner ≠ 0)
      (shifted : amount = Word.shl (d.target w.postage) depth.toNat)
      (pulled : pull d msg w (w.store.accounts msg.sender).payer amount = .ok w₁)
      (approved : approve d msg w₁ amount = .ok w₂)
      (made : createBatch d msg w₂ chunkSigner (d.target w.postage) depth bucketDepth
        immutableBatch = .ok (batchId, w₃))
      (recorded : w₃.store.recordVolume d msg.sender w₃.block.timestamp batchId chunkSigner depth
        ttlExpiry = .ok (id, store)) :
      Effect d msg w (.volumeCreated id msg.sender batchId chunkSigner depth ttlExpiry)
        ({ w₃ with store }.emit msg
          (.volumeCreated id msg.sender batchId chunkSigner depth ttlExpiry))
  | imported {batchId id : Bytes32} {ttlExpiry : UInt64} {outpayment : Nat} {store : Storage}
      (auth : (w.store.accounts msg.sender).active = true)
      (live : Live d w batchId outpayment)
      (deep : d.stamp.minimumBucketDepth w.postage < (d.stamp.batches w.postage batchId).depth)
      (recorded : w.store.recordVolume d msg.sender w.block.timestamp batchId
        (d.stamp.batches w.postage batchId).owner (d.stamp.batches w.postage batchId).depth
        ttlExpiry = .ok (id, store)) :
      Effect d msg w (.volumeImported id msg.sender batchId
          (d.stamp.batches w.postage batchId).owner (d.stamp.batches w.postage batchId).depth
          ttlExpiry (d.stamp.batches w.postage batchId).normalisedBalance)
        ({ w with store }.emit msg (.volumeImported id msg.sender batchId
          (d.stamp.batches w.postage batchId).owner (d.stamp.batches w.postage batchId).depth
          ttlExpiry (d.stamp.batches w.postage batchId).normalisedBalance))
  | retired {id : Bytes32} {reason : RetireReason} {store : Storage}
      (active : (w.store.volumes id).status = .active) (retired : w.store.retire id = .ok store)
      (named : reason ≠ .none) :
      Effect d msg w (.volumeRetired id reason)
        ({ w with store }.emit msg (.volumeRetired id reason))
  | toppedUp {id : Bytes32} {outpayment amount newBalance : Nat} {w₁ w₂ w₃ : World T P}
      (due : Due d w (w.store.volumes id) outpayment)
      (auth : (w.store.accounts (w.store.volumes id).owner).active = true)
      (shifted : amount = Word.shl (d.deficit w.postage (w.store.volumes id) outpayment)
        (w.store.volumes id).depth.toNat)
      (pulled : pull d msg w (w.store.accounts (w.store.volumes id).owner).payer amount = .ok w₁)
      (approved : approve d msg w₁ amount = .ok w₂)
      (topped : topUp d msg w₂ (w.store.volumes id).batchId
        (d.deficit w.postage (w.store.volumes id) outpayment) = .ok w₃) :
      Effect d msg w (.toppedup id amount newBalance) (w₃.emit msg (.toppedup id amount newBalance))
  | skipped {id : Bytes32} {reason : SkipReason}
      (guarded : SkipGuard (w.store.volumes id).status reason) :
      Effect d msg w (.topupSkipped id reason) (w.emit msg (.topupSkipped id reason))

theorem RetireEdge.named {v : Volume} {reason : RetireReason} (edge : RetireEdge d w v reason) :
    reason ≠ .none := by
  cases edge with
  | _ => nofun

/-- The event one run of the trigger steps on `id` may emit. -/
def Event.triggerOf (id : Bytes32) : Event → Prop
  | .volumeRetired volumeId _ | .toppedup volumeId _ _ | .topupSkipped volumeId _ => volumeId = id
  | _ => False

/-- The events of the account API. -/
def Event.ofAccount : Event → Prop
  | .payerDesignated .. | .accountActivated .. | .accountRevoked .. => True
  | _ => False

theorem triggerOf_volume {id : Bytes32} {e : Event} (about : e.triggerOf id) : ¬ e.ofAccount := by
  cases e with
  | payerDesignated => exact about.elim
  | accountActivated => exact about.elim
  | accountRevoked => exact about.elim
  | _ => simp [Event.ofAccount]

/-- The trigger steps have one effect, or none when the batch is at target. -/
theorem TriggerEnd.effect {id : Bytes32} {outcome : TriggerOutcome}
    (ended : TriggerEnd d msg w id outcome w') :
    (outcome = .noDeficit ∧ w' = w) ∨ ∃ e, Effect d msg w e w' ∧ e.triggerOf id := by
  cases ended with
  | idle status =>
    refine .inr ⟨_, .skipped ?_, rfl⟩
    cases same : (w.store.volumes id).status with
    | none => exact .notFound
    | active => exact absurd same status
    | retired => exact .notActive
  | retired active edge retired => exact .inr ⟨_, .retired active retired edge.named, rfl⟩
  | noAuth due inactive =>
    refine .inr ⟨_, .skipped ?_, rfl⟩
    rw [due.active]
    exact .noAuth
  | noDeficit due auth full => exact .inl ⟨rfl, rfl⟩
  | paymentFailed due auth short refused =>
    refine .inr ⟨_, .skipped ?_, rfl⟩
    rw [due.active]
    exact .paymentFailed
  | toppedUp due auth short shifted payable pulled approved topped =>
    exact .inr ⟨_, .toppedUp due auth shifted pulled approved topped, rfl⟩

/-- The events of a successful call and the value it returns. -/
inductive Emits (sender : Address) : Call → Option Bytes32 → List Event → Prop
  | designateFundingWallet {payer : Address} :
      Emits sender (.designateFundingWallet payer) none [.payerDesignated sender payer]
  | confirmAuth {owner : Address} :
      Emits sender (.confirmAuth owner) none [.accountActivated owner sender]
  | revoke {owner payer : Address} :
      Emits sender (.revoke owner) none [.accountRevoked owner payer sender]
  | createVolume {chunkSigner : Address} {depth bucketDepth : UInt8} {ttlExpiry : UInt64}
      {immutableBatch : Bool} {id batchId : Bytes32} :
      Emits sender (.createVolume chunkSigner depth bucketDepth ttlExpiry immutableBatch) (some id)
        [.volumeCreated id sender batchId chunkSigner depth ttlExpiry]
  | registerVolume {batchId id : Bytes32} {ttlExpiry : UInt64} {chunkSigner : Address}
      {depth : UInt8} {balance : Nat} :
      Emits sender (.registerVolume batchId ttlExpiry) (some id)
        [.volumeImported id sender batchId chunkSigner depth ttlExpiry balance]
  | importVolume {batchId id : Bytes32} {ttlExpiry : UInt64} {chunkSigner : Address}
      {depth : UInt8} {balance : Nat} {events : List Event}
      (triggered : ∀ e ∈ events, e.triggerOf id) :
      Emits sender (.importVolume batchId ttlExpiry) (some id)
        (.volumeImported id sender batchId chunkSigner depth ttlExpiry balance :: events)
  | deleteVolume {id : Bytes32} :
      Emits sender (.deleteVolume id) none [.volumeRetired id .ownerDeleted]
  | trigger {id : Bytes32} {events : List Event} (triggered : ∀ e ∈ events, e.triggerOf id) :
      Emits sender (.trigger id) none events
  | triggerMany {ids : List Bytes32} {events : List Event}
      (triggered : ∀ e ∈ events, ∃ id ∈ ids, e.triggerOf id) :
      Emits sender (.triggerMany ids) none events
  | reap {id : Bytes32} {events : List Event} (triggered : ∀ e ∈ events, e.triggerOf id) :
      Emits sender (.reap id) none events

/-! ## Effects on storage -/

def Event.admission : Event → Option Admission
  | .volumeCreated volumeId owner batchId chunkSigner depth ttlExpiry
  | .volumeImported volumeId owner batchId chunkSigner depth ttlExpiry _ =>
    some ⟨volumeId, owner, batchId, chunkSigner, depth, ttlExpiry⟩
  | _ => none

/-- What each event does to storage, for a call by `sender`. -/
inductive StoreStep (d : Deployment T P) (sender : Address) (s : Storage) :
    Event → Storage → Prop
  | designated (payer : Address) :
      StoreStep d sender s (.payerDesignated sender payer)
        { s with designated := Function.update s.designated sender payer }
  | activated (owner : Address) (named : s.designated owner = sender) :
      StoreStep d sender s (.accountActivated owner sender)
        (s.setAccount owner { s.accounts owner with payer := sender, active := true })
  | revoked (owner : Address) (allowed : sender = owner ∨ sender = (s.accounts owner).payer) :
      StoreStep d sender s (.accountRevoked owner (s.accounts owner).payer sender)
        (s.setAccount owner { s.accounts owner with active := false })
  | admitted {e : Event} {a : Admission} (timestamp : Nat) (nextNonce : BitVec 256)
      (announced : e.admission = some a) (owner : a.owner = sender)
      (auth : (s.accounts sender).active = true)
      (named : a.volumeId = d.volumeId sender (s.accounts sender).nonce)
      (unused : (s.volumes a.volumeId).status = .none) :
      StoreStep d sender s e ({ s with nextNonce }.enter a timestamp)
  | retired {id : Bytes32} {reason : RetireReason} {s' : Storage}
      (active : (s.volumes id).status = .active) (retired : s.retire id = .ok s')
      (named : reason ≠ .none) :
      StoreStep d sender s (.volumeRetired id reason) s'
  | toppedUp {id : Bytes32} {amount newBalance : Nat} (active : (s.volumes id).status = .active) :
      StoreStep d sender s (.toppedup id amount newBalance) s
  | skipped {id : Bytes32} {reason : SkipReason}
      (guarded : SkipGuard (s.volumes id).status reason) :
      StoreStep d sender s (.topupSkipped id reason) s

/-- The calls to BZZ and PostageStamp touch neither storage nor events. -/
theorem pull_frame {payer : Address} {amount : Nat} (ok : pull d msg w payer amount = .ok w') :
    w'.store = w.store ∧ w'.events = w.events ∧ w'.block = w.block ∧ w'.postage = w.postage := by
  obtain ⟨bzz, logs, _, rfl⟩ := pull_success ok
  exact ⟨rfl, World.events_absorb _ _ _, rfl, rfl⟩

theorem approve_frame {amount : Nat} (ok : approve d msg w amount = .ok w') :
    w'.store = w.store ∧ w'.events = w.events ∧ w'.block = w.block ∧ w'.postage = w.postage := by
  obtain ⟨bzz, logs, _, rfl⟩ := approve_success ok
  exact ⟨rfl, World.events_absorb _ _ _, rfl, rfl⟩

theorem topUp_frame {batchId : Bytes32} {deficit : Nat}
    (ok : topUp d msg w batchId deficit = .ok w') :
    w'.store = w.store ∧ w'.events = w.events ∧ w'.block = w.block := by
  obtain ⟨reply, _, rfl⟩ := topUp_success ok
  exact ⟨rfl, World.events_absorb _ _ _, rfl⟩

theorem createBatch_frame {chunkSigner : Address} {perChunk : Nat} {depth bucketDepth : UInt8}
    {immutableBatch : Bool} {batchId : Bytes32}
    (ok : createBatch d msg w chunkSigner perChunk depth bucketDepth immutableBatch =
      .ok (batchId, w')) :
    w'.store = { w.store with nextNonce := w.store.nextNonce + 1 } ∧
    w'.events = w.events ∧ w'.block = w.block := by
  obtain ⟨reply, _, rfl⟩ := createBatch_success ok
  exact ⟨rfl, World.events_absorb _ _ _, rfl⟩

/-- Every effect is a storage step of its own event and stays in its block. -/
theorem Effect.store {e : Event} (effect : Effect d msg w e w') :
    StoreStep d msg.sender w.store e w'.store ∧ w'.events = w.events ++ [e] ∧
    w'.block = w.block := by
  cases effect with
  | designated payer => exact ⟨.designated payer, World.events_emit _ _ _, rfl⟩
  | activated owner named => exact ⟨.activated owner named, World.events_emit _ _ _, rfl⟩
  | revoked owner allowed => exact ⟨.revoked owner allowed, World.events_emit _ _ _, rfl⟩
  | @created _ _ _ _ _ _ _ _ w₁ w₂ w₃ store auth _ _ pulled approved made recorded =>
    obtain ⟨store₁, events₁, block₁, _⟩ := pull_frame pulled
    obtain ⟨store₂, events₂, block₂, _⟩ := approve_frame approved
    obtain ⟨store₃, events₃, block₃⟩ := createBatch_frame made
    rw [store₃, store₂, store₁] at recorded
    obtain ⟨named, unused, rfl⟩ := Storage.recordVolume_success recorded
    refine ⟨.admitted _ _ rfl rfl auth named unused, ?_, ?_⟩
    · rw [World.events_emit]
      exact congrArg (· ++ _) (events₃.trans (events₂.trans events₁))
    · exact block₃.trans (block₂.trans block₁)
  | imported auth live deep recorded =>
    obtain ⟨named, unused, rfl⟩ := Storage.recordVolume_success recorded
    exact ⟨.admitted (s := w.store) _ w.store.nextNonce rfl rfl auth named unused,
      World.events_emit _ _ _, rfl⟩
  | retired active retired named =>
    exact ⟨.retired active retired named, World.events_emit _ _ _, rfl⟩
  | @toppedUp _ _ _ _ w₁ w₂ w₃ due auth _ pulled approved topped =>
    obtain ⟨store₁, events₁, block₁, _⟩ := pull_frame pulled
    obtain ⟨store₂, events₂, block₂, _⟩ := approve_frame approved
    obtain ⟨store₃, events₃, block₃⟩ := topUp_frame topped
    have same : w₃.store = w.store := store₃.trans (store₂.trans store₁)
    refine ⟨?_, ?_, ?_⟩
    · rw [World.emit_store, same]
      exact .toppedUp due.active
    · rw [World.events_emit, events₃, events₂, events₁]
    · exact block₃.trans (block₂.trans block₁)
  | skipped guarded => exact ⟨.skipped guarded, World.events_emit _ _ _, rfl⟩

theorem Effect.trace_store {events : List Event} (trace : Trace (Effect d msg) w events w') :
    Trace (StoreStep d msg.sender) w.store events w'.store ∧ w'.events = w.events ++ events ∧
    w'.block = w.block := by
  induction trace with
  | nil => exact ⟨.nil, (List.append_nil _).symm, rfl⟩
  | snoc before last ih =>
    obtain ⟨steps, events, block⟩ := ih
    obtain ⟨step, event, same⟩ := last.store
    exact ⟨.snoc steps step, by rw [event, events, List.append_assoc], same.trans block⟩

/-- Without an admission no nonce moves, no record appears and none is rewritten. -/
theorem step_quiet {sender : Address} {s s' : Storage} {e : Event} (silent : e.admission = none)
    (step : StoreStep d sender s e s') :
    (∀ o, (s'.accounts o).nonce = (s.accounts o).nonce) ∧
    ∀ id, ((s'.volumes id).status = .none ↔ (s.volumes id).status = .none) ∧
      (s'.volumes id).written = (s.volumes id).written := by
  cases step with
  | designated payer => exact ⟨fun _ => rfl, fun _ => ⟨.rfl, rfl⟩⟩
  | activated owner named =>
    refine ⟨fun o => ?_, fun _ => ⟨.rfl, rfl⟩⟩
    rw [Storage.setAccount_accounts]
    split
    · rename_i same
      rw [same]
    · rfl
  | revoked owner allowed =>
    refine ⟨fun o => ?_, fun _ => ⟨.rfl, rfl⟩⟩
    rw [Storage.setAccount_accounts]
    split
    · rename_i same
      rw [same]
    · rfl
  | admitted timestamp nextNonce announced owner auth named unused =>
    rw [silent] at announced
    cases announced
  | retired active retired =>
    obtain ⟨accounts, _, records, _⟩ := Storage.retire_frame retired
    refine ⟨fun o => by rw [accounts], fun id => ⟨?_, (records id).1⟩⟩
    rw [(records id).2]
    split
    · rename_i same
      rw [same, active]
      simp
    · exact .rfl
  | toppedUp active => exact ⟨fun _ => rfl, fun _ => ⟨.rfl, rfl⟩⟩
  | skipped guarded => exact ⟨fun _ => rfl, fun _ => ⟨.rfl, rfl⟩⟩

theorem trace_quiet {sender : Address} {s s' : Storage} {events : List Event}
    (silent : ∀ e ∈ events, e.admission = none) (trace : Trace (StoreStep d sender) s events s') :
    (∀ o, (s'.accounts o).nonce = (s.accounts o).nonce) ∧
    ∀ id, ((s'.volumes id).status = .none ↔ (s.volumes id).status = .none) ∧
      (s'.volumes id).written = (s.volumes id).written := by
  refine (trace.restrict silent).invariant (fun t =>
    (∀ o, (t.accounts o).nonce = (s.accounts o).nonce) ∧
    ∀ id, ((t.volumes id).status = .none ↔ (s.volumes id).status = .none) ∧
      (t.volumes id).written = (s.volumes id).written)
    ⟨fun _ => rfl, fun _ => ⟨.rfl, rfl⟩⟩ ?_
  rintro t e t' ⟨step, quiet⟩ ⟨nonces, records⟩
  obtain ⟨sameNonces, sameRecords⟩ := step_quiet quiet step
  exact ⟨fun o => (sameNonces o).trans (nonces o), fun id =>
    ⟨(sameRecords id).1.trans (records id).1, (sameRecords id).2.trans (records id).2⟩⟩

/-! ## Calls as traces of effects -/

theorem triggerOne_effects {id : Bytes32} {outcome : TriggerOutcome}
    (ok : triggerOne d msg w id = .ok (outcome, w')) :
    ∃ events, Trace (Effect d msg) w events w' ∧ ∀ e ∈ events, e.triggerOf id := by
  rcases (triggerOne_end ok).effect with ⟨_, rfl⟩ | ⟨e, effect, about⟩
  · exact ⟨[], .nil, by simp⟩
  · exact ⟨[e], .single effect, by simpa using about⟩

theorem trigger_success {id : Bytes32} (ok : trigger d msg w id = .ok w') :
    ∃ outcome, triggerOne d msg w id = .ok (outcome, w') := by
  obtain ⟨⟨outcome, left⟩, one, ok⟩ := bind_success ok
  cases ok
  exact ⟨outcome, one⟩

/-- A batch that goes through is the trace of its trigger steps. -/
theorem triggerMany_ran {ids : List Bytes32} (ok : triggerMany d msg w ids = .ok w') :
    Trace (Ran d) w (triggerSteps d msg w ids) w' := by
  induction ids generalizing w with
  | nil =>
    cases ok
    exact .nil
  | cons id ids ih =>
    obtain ⟨mid, first, rest⟩ := bind_success ok
    obtain ⟨outcome, one⟩ := trigger_success first
    simp only [triggerSteps, one]
    exact .cons ⟨rfl, rfl, msg, one⟩ (ih rest)

theorem trigger_ran {id : Bytes32} (ok : trigger d msg w id = .ok w') :
    Trace (Ran d) w (triggerSteps d msg w [id]) w' := by
  apply triggerMany_ran
  rw [triggerMany, ok]
  rfl

theorem triggerMany_effects {ids : List Bytes32} (ok : triggerMany d msg w ids = .ok w') :
    ∃ events, Trace (Effect d msg) w events w' ∧ ∀ e ∈ events, ∃ id ∈ ids, e.triggerOf id := by
  induction ids generalizing w with
  | nil =>
    cases ok
    exact ⟨[], .nil, by simp⟩
  | cons id ids ih =>
    obtain ⟨mid, first, rest⟩ := bind_success ok
    obtain ⟨outcome, one⟩ := trigger_success first
    obtain ⟨events, trace, about⟩ := triggerOne_effects one
    obtain ⟨more, traces, abouts⟩ := ih rest
    refine ⟨events ++ more, trace.append traces, fun e member => ?_⟩
    rcases List.mem_append.mp member with early | late
    · exact ⟨id, by simp, about e early⟩
    · obtain ⟨other, listed, of⟩ := abouts e late
      exact ⟨other, by simp [listed], of⟩

theorem recordVolume_success {batchId id : Bytes32} {chunkSigner : Address} {depth : UInt8}
    {ttlExpiry : UInt64}
    (ok : recordVolume d msg w batchId chunkSigner depth ttlExpiry = .ok (id, w')) :
    ∃ store, w.store.recordVolume d msg.sender w.block.timestamp batchId chunkSigner depth
      ttlExpiry = .ok (id, store) ∧ w' = { w with store } := by
  obtain ⟨⟨made, store⟩, stored, ok⟩ := bind_success ok
  cases ok
  exact ⟨store, stored, rfl⟩

theorem registerBatch_effect {batchId id : Bytes32} {ttlExpiry : UInt64}
    (ok : registerBatch d msg w batchId ttlExpiry = .ok (id, w')) :
    Effect d msg w (.volumeImported id msg.sender batchId
      (d.stamp.batches w.postage batchId).owner (d.stamp.batches w.postage batchId).depth
      ttlExpiry (d.stamp.batches w.postage batchId).normalisedBalance) w' := by
  unfold registerBatch at ok
  dsimp only at ok
  split at ok
  · cases ok
  · rename_i auth
    rw [Bool.not_eq_false] at auth
    split at ok
    · cases ok
    · rename_i present
      obtain ⟨outpayment, read, ok⟩ := bind_success ok
      split at ok
      · cases ok
      · rename_i alive
        split at ok
        · cases ok
        · rename_i deep
          obtain ⟨⟨made, left⟩, recorded, ok⟩ := bind_success ok
          obtain ⟨store, stored, rfl⟩ := recordVolume_success recorded
          cases ok
          exact .imported auth ⟨orRevert_success read, present, Nat.not_le.mp alive⟩
            (UInt8.not_le.mp deep) stored

theorem createVolume_effect {chunkSigner : Address} {depth bucketDepth : UInt8}
    {ttlExpiry : UInt64} {immutableBatch : Bool} {id : Bytes32}
    (ok : createVolume d msg w chunkSigner depth bucketDepth ttlExpiry immutableBatch =
      .ok (id, w')) :
    ∃ batchId, Effect d msg w
      (.volumeCreated id msg.sender batchId chunkSigner depth ttlExpiry) w' := by
  unfold createVolume at ok
  dsimp only at ok
  split at ok
  · cases ok
  · rename_i auth
    rw [Bool.not_eq_false] at auth
    split at ok
    · cases ok
    · rename_i signer
      obtain ⟨perChunk, multiplied, ok⟩ := bind_success ok
      rw [d.mul_target, orRevert_some] at multiplied
      cases multiplied
      obtain ⟨w₁, pulled, ok⟩ := bind_success ok
      obtain ⟨w₂, approved, ok⟩ := bind_success ok
      obtain ⟨⟨batchId, w₃⟩, made, ok⟩ := bind_success ok
      obtain ⟨⟨madeId, left⟩, recorded, ok⟩ := bind_success ok
      obtain ⟨store, stored, rfl⟩ := recordVolume_success recorded
      cases ok
      exact ⟨batchId, .created auth signer rfl pulled approved made stored⟩

theorem importVolume_success {batchId id : Bytes32} {ttlExpiry : UInt64}
    (ok : importVolume d msg w batchId ttlExpiry = .ok (id, w')) :
    ∃ registered outcome, registerBatch d msg w batchId ttlExpiry = .ok (id, registered) ∧
      triggerOne d msg registered id = .ok (outcome, w') ∧
      (outcome = .toppedUp ∨ outcome = .noDeficit) := by
  obtain ⟨⟨made, registered⟩, first, ok⟩ := bind_success ok
  obtain ⟨⟨outcome, left⟩, second, ok⟩ := bind_success ok
  dsimp only at ok
  split at ok
  · cases ok
  · rename_i settled
    cases ok
    refine ⟨registered, outcome, first, second, ?_⟩
    by_contra neither
    exact settled (not_or.mp neither)

theorem deleteVolume_effect {id : Bytes32} (ok : deleteVolume msg w id = .ok w') :
    (w.store.volumes id).owner = msg.sender ∧ Effect d msg w (.volumeRetired id .ownerDeleted) w' := by
  unfold deleteVolume at ok
  dsimp only at ok
  split at ok
  · cases ok
  · rename_i owner
    split at ok
    · cases ok
    · rename_i active
      rw [not_not] at owner active
      obtain ⟨store, stored, rfl⟩ := retire_success ok
      exact ⟨owner, .retired active stored nofun⟩

theorem reap_effect {id : Bytes32} (ok : reap msg w id = .ok w') :
    w' = w ∨ ((w.store.volumes id).Expired w.block.timestamp ∧
      Effect d msg w (.volumeRetired id .volumeExpired) w') := by
  unfold reap at ok
  dsimp only at ok
  split at ok
  · exact .inl (Except.ok.inj ok).symm
  · rename_i active
    rw [not_not] at active
    split at ok
    · rename_i expired
      obtain ⟨store, stored, rfl⟩ := retire_success ok
      exact .inr ⟨expired, .retired active stored nofun⟩
    · exact .inl (Except.ok.inj ok).symm

theorem confirmAuth_effect {owner : Address} (ok : confirmAuth msg w owner = .ok w') :
    Effect d msg w (.accountActivated owner msg.sender) w' := by
  unfold confirmAuth at ok
  split at ok
  · cases ok
  · rename_i named
    rw [not_not] at named
    cases ok
    exact .activated owner named

theorem revoke_effect {owner : Address} (ok : revoke msg w owner = .ok w') :
    Effect d msg w (.accountRevoked owner (w.store.accounts owner).payer msg.sender) w' := by
  unfold revoke at ok
  dsimp only at ok
  split at ok
  · cases ok
  · rename_i allowed
    cases ok
    refine .revoked owner ?_
    by_contra neither
    exact allowed (not_or.mp neither)

/-- A successful call is a trace of effects, and its kind decides which. -/
theorem execute_effects {call : Call} {value : Option Bytes32}
    (ok : execute d msg w call = .ok (value, w')) :
    ∃ events, Trace (Effect d msg) w events w' ∧ Emits msg.sender call value events := by
  cases call with
  | designateFundingWallet payer =>
    cases ok
    exact ⟨_, .single (.designated payer), .designateFundingWallet⟩
  | confirmAuth owner =>
    obtain ⟨_, ok, same⟩ := map_success ok
    cases same
    exact ⟨_, .single (confirmAuth_effect ok), .confirmAuth⟩
  | revoke owner =>
    obtain ⟨_, ok, same⟩ := map_success ok
    cases same
    exact ⟨_, .single (revoke_effect ok), .revoke⟩
  | createVolume chunkSigner depth bucketDepth ttlExpiry immutableBatch =>
    obtain ⟨⟨id, left⟩, ok, same⟩ := map_success ok
    cases same
    obtain ⟨batchId, effect⟩ := createVolume_effect ok
    exact ⟨_, .single effect, .createVolume⟩
  | registerVolume batchId ttlExpiry =>
    obtain ⟨⟨id, left⟩, ok, same⟩ := map_success ok
    cases same
    exact ⟨_, .single (registerBatch_effect ok), .registerVolume⟩
  | importVolume batchId ttlExpiry =>
    obtain ⟨⟨id, left⟩, ok, same⟩ := map_success ok
    cases same
    obtain ⟨registered, outcome, first, second, _⟩ := importVolume_success ok
    obtain ⟨events, trace, about⟩ := triggerOne_effects second
    exact ⟨_, trace.cons (registerBatch_effect first), .importVolume about⟩
  | deleteVolume id =>
    obtain ⟨_, ok, same⟩ := map_success ok
    cases same
    exact ⟨_, .single (deleteVolume_effect ok).2, .deleteVolume⟩
  | trigger id =>
    obtain ⟨_, ok, same⟩ := map_success ok
    cases same
    obtain ⟨outcome, one⟩ := trigger_success ok
    obtain ⟨events, trace, about⟩ := triggerOne_effects one
    exact ⟨events, trace, .trigger about⟩
  | triggerMany ids =>
    obtain ⟨_, ok, same⟩ := map_success ok
    cases same
    obtain ⟨events, trace, about⟩ := triggerMany_effects ok
    exact ⟨events, trace, .triggerMany about⟩
  | reap id =>
    obtain ⟨_, ok, same⟩ := map_success ok
    cases same
    rcases reap_effect ok with rfl | ⟨_, effect⟩
    · exact ⟨[], .nil, .reap (by simp)⟩
    · exact ⟨_, .single effect, .reap (by simp [Event.triggerOf])⟩

/-- Every trigger step of a list starts where effects of the call have led. -/
theorem triggerSteps_effects {ids : List Bytes32} {step : TriggerStep T P}
    (member : step ∈ triggerSteps d msg w ids) :
    (∃ events, Trace (Effect d msg) w events step.before ∧ ∀ e ∈ events, ¬ e.ofAccount) ∧
    triggerOne d msg step.before step.volumeId = .ok (step.outcome, step.after) := by
  induction ids generalizing w with
  | nil => simp [triggerSteps] at member
  | cons id ids ih =>
    rw [triggerSteps] at member
    split at member
    · rename_i outcome after one
      rcases List.mem_cons.mp member with rfl | later
      · exact ⟨⟨[], .nil, by simp⟩, one⟩
      · obtain ⟨⟨events, trace, volume⟩, ran⟩ := ih later
        obtain ⟨first, before, about⟩ := triggerOne_effects one
        refine ⟨⟨_, before.append trace, fun e member => ?_⟩, ran⟩
        rcases List.mem_append.mp member with early | late
        · exact triggerOf_volume (about e early)
        · exact volume e late
    · simp at member

theorem steps_effects {call : Call} {step : TriggerStep T P} (member : step ∈ call.steps d msg w) :
    (∃ events, Trace (Effect d msg) w events step.before ∧ ∀ e ∈ events, ¬ e.ofAccount) ∧
    triggerOne d msg step.before step.volumeId = .ok (step.outcome, step.after) := by
  cases call with
  | trigger id => exact triggerSteps_effects member
  | triggerMany ids => exact triggerSteps_effects member
  | importVolume batchId ttlExpiry =>
    rw [Call.steps] at member
    split at member
    · rename_i id registered ok
      obtain ⟨⟨events, trace, volume⟩, ran⟩ := triggerSteps_effects member
      refine ⟨⟨_, trace.cons (registerBatch_effect ok), fun e member => ?_⟩, ran⟩
      rcases List.mem_cons.mp member with rfl | later
      · simp [Event.ofAccount]
      · exact volume e later
    · simp at member
  | _ => simp [Call.steps] at member

/-- The one step of an import is on the volume it registered. -/
theorem import_step {batchId : Bytes32} {ttlExpiry : UInt64} {step : TriggerStep T P}
    (member : step ∈ (Call.importVolume batchId ttlExpiry).steps d msg w) :
    registerBatch d msg w batchId ttlExpiry = .ok (step.volumeId, step.before) := by
  rw [Call.steps] at member
  split at member
  · rename_i id registered ok
    simp only [triggerSteps] at member
    split at member
    · rw [List.mem_singleton.mp member]
      exact ok
    · simp at member
  · simp at member

theorem triggerOf_admission {id : Bytes32} {e : Event} (about : e.triggerOf id) :
    e.admission = none := by
  cases e with
  | volumeCreated => exact about.elim
  | volumeImported => exact about.elim
  | _ => rfl

/-- A creating call admits one volume, its caller's, with its first event and
returns the ID. -/
theorem Emits.creating {sender : Address} {call : Call} {value : Option Bytes32}
    {events : List Event} (emits : Emits sender call value events) (creating : call.creating = true) :
    ∃ e rest a, events = e :: rest ∧ e.admission = some a ∧ a.owner = sender ∧
      value = some a.volumeId ∧ ∀ x ∈ rest, x.admission = none := by
  cases emits with
  | createVolume => exact ⟨_, [], _, rfl, rfl, rfl, rfl, by simp⟩
  | registerVolume => exact ⟨_, [], _, rfl, rfl, rfl, rfl, by simp⟩
  | importVolume triggered =>
    exact ⟨_, _, _, rfl, rfl, rfl, rfl, fun x member => triggerOf_admission (triggered x member)⟩
  | _ => cases creating

/-- No other call admits or returns one. -/
theorem Emits.other {sender : Address} {call : Call} {value : Option Bytes32}
    {events : List Event} (emits : Emits sender call value events) (other : call.creating = false) :
    value = none ∧ ∀ x ∈ events, x.admission = none := by
  cases emits with
  | trigger triggered => exact ⟨rfl, fun x member => triggerOf_admission (triggered x member)⟩
  | triggerMany triggered =>
    refine ⟨rfl, fun x member => ?_⟩
    obtain ⟨id, _, about⟩ := triggered x member
    exact triggerOf_admission about
  | reap triggered => exact ⟨rfl, fun x member => triggerOf_admission (triggered x member)⟩
  | createVolume => cases other
  | registerVolume => cases other
  | importVolume => cases other
  | _ => exact ⟨rfl, by simp [Event.admission]⟩

/-- A call of a run is a trace of storage steps by its sender, empty if it
reverted. -/
theorem CallStep.store {outside : World T P → World T P → Prop} {e : Entry T P}
    (step : CallStep d outside w e w') :
    ∃ events, Trace (StoreStep d e.msg.sender) w.store events w'.store ∧
      w'.events = w.events ++ events ∧
      (e.Succeeded → Emits e.msg.sender e.call e.returned events) ∧
      (¬ e.Succeeded → events = [] ∧ w' = e.before) := by
  have logs := World.events_of_logs step.idle.logs
  rw [step.left, ← step.idle.store, ← logs]
  cases same : e.result with
  | error r =>
    rw [Entry.after_of_error same]
    refine ⟨[], .nil, (List.append_nil _).symm, fun succeeded => ?_, fun _ => ⟨rfl, rfl⟩⟩
    simp [Entry.Succeeded, same, Except.isOk, Except.toBool] at succeeded
  | ok pair =>
    obtain ⟨value, left⟩ := pair
    obtain ⟨events, trace, emits⟩ := execute_effects (step.executed.symm.trans same)
    obtain ⟨steps, grown, _⟩ := Effect.trace_store trace
    rw [Entry.after_of_ok same]
    refine ⟨events, steps, grown, fun _ => ?_, fun failed => ?_⟩
    · rwa [Entry.returned, same]
    · simp [Entry.Succeeded, same, Except.isOk, Except.toBool] at failed

/-- The invariant rule, one effect at a time. -/
theorem Run.invariant_effects {outside : World T P → World T P → Prop} {w₀ : World T P}
    {es : List (Entry T P)} (I : World T P → Prop) (start : I w₀)
    (idle : ∀ w w', Idle w w' → outside w w' → I w → I w')
    (kept : ∀ msg w e w', External d msg.sender → Effect d msg w e w' → I w → I w')
    (run : Run d outside w₀ es w) : I w := by
  refine run.invariant I start idle fun msg call w value w' external ok held => ?_
  obtain ⟨events, trace, _⟩ := execute_effects ok
  exact trace.invariant I held fun s e s' => kept msg s e s' external

/-- The invariant rule for storage together with the events so far. -/
theorem Run.invariant_events {outside : World T P → World T P → Prop} {w₀ : World T P}
    {es : List (Entry T P)} (deployed : Deployed d w₀) (I : List Event → Storage → Prop)
    (start : I [] .empty)
    (kept : ∀ events sender s e s', External d sender → StoreStep d sender s e s' →
      I events s → I (events ++ [e]) s')
    (run : Run d outside w₀ es w) : I w.events w.store := by
  refine run.invariant_effects (fun w => I w.events w.store) ?_ ?_ ?_
  · rw [deployed.store, World.events, deployed.unlogged]
    exact start
  · intro w w' same _ held
    rwa [World.events_of_logs same.logs, same.store]
  · intro msg w e w' external effect held
    obtain ⟨step, events, _⟩ := effect.store
    rw [events]
    exact kept _ _ _ _ _ external step held

end SwarmVolumes.Source
