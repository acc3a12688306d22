import SwarmVolumes.Source.Registry.Sample
import SwarmVolumes.Source.Registry.Views

/-!
# Non-interference

A call rewrites the records it names, the accounts it names and, through
PostageStamp, the batches of the volumes it triggers, whose balance it only
adds to. Other records keep every field but their place in the active list.
-/
namespace SwarmVolumes.Guarantees.NonInterference
open Library Source

variable {T P : Type} {d : Deployment T P} {msg : Msg} {w w' : World T P}

/-- The volume an event rewrites. -/
def subject : Event → Option Bytes32
  | .volumeCreated id .. | .volumeImported id .. | .volumeRetired id _ | .toppedup id .. |
    .topupSkipped id _ => some id
  | _ => none

/-- The owner whose account an event rewrites. -/
def holder : Event → Option Address
  | .payerDesignated owner _ | .accountActivated owner _ | .accountRevoked owner .. => some owner
  | _ => none

/-- The volumes a call names: its argument, or the volume it created. -/
def named (value : Option Bytes32) : Call → List Bytes32
  | .deleteVolume id | .trigger id | .reap id => [id]
  | .triggerMany ids => ids
  | .createVolume .. | .registerVolume .. | .importVolume .. => value.toList
  | .designateFundingWallet _ | .confirmAuth _ | .revoke _ => []

/-- The owners a call is about: its caller, and the one it names. -/
def owners (sender : Address) : Call → List Address
  | .confirmAuth owner | .revoke owner => [sender, owner]
  | _ => [sender]

/-- The calls that may top a batch up. -/
def triggers : Call → Bool
  | .trigger _ | .triggerMany _ | .importVolume .. => true
  | _ => false

/-- The account API. -/
def managesAccount : Call → Bool
  | .designateFundingWallet _ | .confirmAuth _ | .revoke _ => true
  | _ => false

/-- Everything of a record but its place in the active list. -/
def unmoved (v : Volume) : (Address × Address × Bytes32 × UInt64 × UInt64 × UInt8) × Status :=
  (v.written, v.status)

/-- A batch that may have gained balance and is otherwise the same. -/
structure Gains (b b' : Batch) : Prop where
  balance : b.normalisedBalance ≤ b'.normalisedBalance
  rest : b' = { b with normalisedBalance := b'.normalisedBalance }

theorem Gains.refl (b : Batch) : Gains b b := ⟨Nat.le_refl _, rfl⟩

theorem Gains.trans {b b' b'' : Batch} (first : Gains b b') (second : Gains b' b'') : Gains b b'' :=
  ⟨first.balance.trans second.balance, by rw [second.rest, first.rest]⟩

/-! ## One step -/

theorem step_records {sender : Address} {s s' : Storage} {e : Event} (step : StoreStep d sender s e s')
    {id : Bytes32} (other : subject e ≠ some id) :
    unmoved (s'.volumes id) = unmoved (s.volumes id) := by
  cases step with
  | @admitted e a timestamp nextNonce announced owner auth named unused =>
    have different : id ≠ a.volumeId := by
      rintro rfl
      cases e with
      | volumeCreated | volumeImported =>
        cases announced
        exact other rfl
      | _ => cases announced
    rw [Storage.enter_volumes, if_neg different]
  | @retired retiring reason _ active retired =>
    have different : id ≠ retiring := fun same => other (congrArg some same.symm)
    obtain ⟨written, status⟩ := (Storage.retire_frame retired).2.2.1 id
    rw [if_neg different] at status
    rw [unmoved, unmoved, written, status]
  | _ => rfl

theorem step_accounts {sender : Address} {s s' : Storage} {e : Event} (step : StoreStep d sender s e s')
    {o : Address} (notSender : o ≠ sender) (notHolder : holder e ≠ some o) :
    s'.accounts o = s.accounts o ∧ s'.designated o = s.designated o := by
  cases step with
  | designated payer => exact ⟨rfl, Function.update_of_ne notSender ..⟩
  | activated owner =>
    exact ⟨Storage.setAccount_other fun same => notHolder (congrArg some same.symm), rfl⟩
  | revoked owner =>
    exact ⟨Storage.setAccount_other fun same => notHolder (congrArg some same.symm), rfl⟩
  | admitted timestamp nextNonce announced owner =>
    rw [← owner] at notSender
    exact ⟨by rw [Storage.enter_accounts, if_neg notSender], rfl⟩
  | retired active retired =>
    obtain ⟨accounts, designated, _⟩ := Storage.retire_frame retired
    exact ⟨congrFun accounts o, congrFun designated o⟩
  | toppedUp active => exact ⟨rfl, rfl⟩
  | skipped guarded => exact ⟨rfl, rfl⟩

/-- Outside the account API an account keeps its payer and its flag. -/
theorem step_authorization {sender : Address} {s s' : Storage} {e : Event}
    (step : StoreStep d sender s e s') (volume : ¬ e.ofAccount) (o : Address) :
    (s'.accounts o).payer = (s.accounts o).payer ∧ (s'.accounts o).active = (s.accounts o).active := by
  cases step with
  | designated payer => exact absurd trivial volume
  | activated owner => exact absurd trivial volume
  | revoked owner => exact absurd trivial volume
  | admitted timestamp nextNonce announced owner =>
    rw [Storage.enter_accounts]
    split
    · exact ⟨rfl, rfl⟩
    · exact ⟨rfl, rfl⟩
  | retired active retired =>
    rw [(Storage.retire_frame retired).1]
    exact ⟨rfl, rfl⟩
  | toppedUp active => exact ⟨rfl, rfl⟩
  | skipped guarded => exact ⟨rfl, rfl⟩

/-- A record that exists keeps the batch it names. -/
theorem step_batch {sender : Address} {s s' : Storage} {e : Event} (step : StoreStep d sender s e s')
    {id : Bytes32} (known : (s.volumes id).status ≠ .none) :
    (s'.volumes id).status ≠ .none ∧ (s'.volumes id).batchId = (s.volumes id).batchId := by
  cases step with
  | @admitted e a timestamp nextNonce announced owner auth named unused =>
    have different : id ≠ a.volumeId := by
      rintro rfl
      exact known unused
    rw [Storage.enter_volumes, if_neg different]
    exact ⟨known, rfl⟩
  | @retired retiring reason _ active retired =>
    obtain ⟨written, status⟩ := (Storage.retire_frame retired).2.2.1 id
    refine ⟨?_, congrArg (·.2.2.1) written⟩
    rw [status]
    split
    · nofun
    · exact known
  | _ => exact ⟨known, rfl⟩

/-- An effect leaves a batch alone, or tops it up for a volume over it. -/
theorem effect_batches (contained : d.stamp.Contained) {e : Event} (effect : Effect d msg w e w')
    {b : Bytes32} (occupied : (d.stamp.batches w.postage b).owner ≠ 0) :
    d.stamp.batches w'.postage b = d.stamp.batches w.postage b ∨
      ∃ id, (∃ amount newBalance, e = .toppedup id amount newBalance) ∧
        (w.store.volumes id).status = .active ∧ (w.store.volumes id).batchId = b ∧
        Gains (d.stamp.batches w.postage b) (d.stamp.batches w'.postage b) := by
  cases effect with
  | created auth signer shifted pulled approved made recorded =>
    obtain ⟨_, _, _, postage₁⟩ := pull_frame pulled
    obtain ⟨_, _, _, postage₂⟩ := approve_frame approved
    obtain ⟨reply, replied, rfl⟩ := createBatch_success made
    refine .inl ?_
    have fresh := contained.createBatch_fresh replied
    have others := fun other : b ≠ reply.value => contained.createBatch_other replied other
    rw [postage₂, postage₁] at fresh others
    exact others fun same => occupied (same ▸ fresh)
  | @toppedUp id _ _ _ _ _ _ due auth shifted pulled approved topped =>
    obtain ⟨_, _, _, postage₁⟩ := pull_frame pulled
    obtain ⟨_, _, _, postage₂⟩ := approve_frame approved
    obtain ⟨reply, replied, rfl⟩ := topUp_success topped
    rw [postage₂, postage₁] at replied
    by_cases here : b = (w.store.volumes id).batchId
    · refine .inr ⟨id, ⟨_, _, rfl⟩, due.active, here.symm, ?_⟩
      have topped := contained.topUp_balance replied
      rw [← here] at topped
      change Gains _ (d.stamp.batches reply.postage b)
      rw [topped]
      exact ⟨Nat.le_add_right _ _, rfl⟩
    · exact .inl (contained.topUp_other replied here)
  | _ => exact .inl rfl

/-! ## A whole call -/

theorem trace_records {events : List Event} (trace : Trace (Effect d msg) w events w') {id : Bytes32}
    (others : ∀ e ∈ events, subject e ≠ some id) :
    unmoved (w'.store.volumes id) = unmoved (w.store.volumes id) := by
  refine (trace.restrict others).invariant
    (fun u => unmoved (u.store.volumes id) = unmoved (w.store.volumes id)) rfl ?_
  rintro u e u' ⟨effect, other⟩ same
  exact (step_records effect.store.1 other).trans same

theorem trace_accounts {events : List Event} (trace : Trace (Effect d msg) w events w') {o : Address}
    (notSender : o ≠ msg.sender) (others : ∀ e ∈ events, holder e ≠ some o) :
    w'.store.accounts o = w.store.accounts o ∧ w'.store.designated o = w.store.designated o := by
  refine (trace.restrict others).invariant (fun u =>
    u.store.accounts o = w.store.accounts o ∧ u.store.designated o = w.store.designated o)
    ⟨rfl, rfl⟩ ?_
  rintro u e u' ⟨effect, other⟩ ⟨account, designated⟩
  obtain ⟨account', designated'⟩ := step_accounts effect.store.1 notSender other
  exact ⟨account'.trans account, designated'.trans designated⟩

theorem trace_authorization {events : List Event} (trace : Trace (Effect d msg) w events w')
    (volumes : ∀ e ∈ events, ¬ e.ofAccount) (o : Address) :
    (w'.store.accounts o).payer = (w.store.accounts o).payer ∧
    (w'.store.accounts o).active = (w.store.accounts o).active := by
  refine (trace.restrict volumes).invariant (fun u =>
    (u.store.accounts o).payer = (w.store.accounts o).payer ∧
    (u.store.accounts o).active = (w.store.accounts o).active) ⟨rfl, rfl⟩ ?_
  rintro u e u' ⟨effect, volume⟩ ⟨payer, active⟩
  obtain ⟨payer', active'⟩ := step_authorization effect.store.1 volume o
  exact ⟨payer'.trans payer, active'.trans active⟩

/-- Over a whole call a batch gains balance from top-ups for volumes over it only. -/
theorem trace_batches (contained : d.stamp.Contained) {events : List Event}
    (trace : Trace (Effect d msg) w events w') {b : Bytes32}
    (occupied : (d.stamp.batches w.postage b).owner ≠ 0) :
    d.stamp.batches w'.postage b = d.stamp.batches w.postage b ∨
      ∃ id, (∃ amount newBalance, .toppedup id amount newBalance ∈ events) ∧
        (w'.store.volumes id).status ≠ .none ∧ (w'.store.volumes id).batchId = b ∧
        Gains (d.stamp.batches w.postage b) (d.stamp.batches w'.postage b) := by
  refine trace.history (fun events u =>
    d.stamp.batches u.postage b = d.stamp.batches w.postage b ∨
      ∃ id, (∃ amount newBalance, .toppedup id amount newBalance ∈ events) ∧
        (u.store.volumes id).status ≠ .none ∧ (u.store.volumes id).batchId = b ∧
        Gains (d.stamp.batches w.postage b) (d.stamp.batches u.postage b)) (.inl rfl) ?_
  intro events u e u' _ effect held
  have gained : Gains (d.stamp.batches w.postage b) (d.stamp.batches u.postage b) := by
    rcases held with same | ⟨_, _, _, _, gains⟩
    · rw [same]
      exact .refl _
    · exact gains
  have present : (d.stamp.batches u.postage b).owner ≠ 0 := by
    rw [gained.rest]
    exact occupied
  rcases effect_batches contained effect present with quiet | ⟨id, ⟨amount, newBalance, rfl⟩, active, filled, gains⟩
  · rcases held with same | ⟨id, ⟨amount, newBalance, member⟩, known, filled, gains⟩
    · exact .inl (quiet.trans same)
    · obtain ⟨known', batch⟩ := step_batch effect.store.1 known
      refine .inr ⟨id, ⟨amount, newBalance, List.mem_append_left _ member⟩, known', batch.trans filled, ?_⟩
      rw [quiet]
      exact gains
  · have before : (u.store.volumes id).status ≠ .none := by
      rw [active]
      nofun
    obtain ⟨known, batch⟩ := step_batch effect.store.1 before
    exact .inr ⟨id, ⟨amount, newBalance, by simp⟩, known, batch.trans filled, gained.trans gains⟩

theorem triggerOf_subject {id : Bytes32} {e : Event} (about : e.triggerOf id) :
    subject e = some id ∧ holder e = none := by
  cases e with
  | volumeRetired | toppedup | topupSkipped =>
    obtain rfl : _ = id := about
    exact ⟨rfl, rfl⟩
  | _ => exact about.elim

/-- The events of a call are about what the call names. -/
theorem emits_named {call : Call} {value : Option Bytes32} {events : List Event}
    (emits : Emits msg.sender call value events) : ∀ e ∈ events,
    (∀ id, subject e = some id → id ∈ named value call) ∧
    (∀ o, holder e = some o → o ∈ owners msg.sender call) ∧
    (managesAccount call = false → ¬ e.ofAccount) := by
  have triggered : ∀ {id : Bytes32} {ids : List Bytes32} {e : Event}, e.triggerOf id → id ∈ ids →
      (∀ x, subject e = some x → x ∈ ids) ∧ (∀ o, holder e = some o → o ∈ owners msg.sender call) ∧
        (managesAccount call = false → ¬ e.ofAccount) := by
    intro id ids e about member
    obtain ⟨same, none⟩ := triggerOf_subject about
    refine ⟨fun x found => ?_, fun o found => ?_, fun _ => triggerOf_volume about⟩
    · rw [← Option.some.inj (same.symm.trans found)]
      exact member
    · rw [none] at found
      cases found
  cases emits with
  | designateFundingWallet | confirmAuth | revoke =>
    simp [subject, holder, owners, managesAccount]
  | createVolume | registerVolume | deleteVolume =>
    simp [subject, holder, named, Event.ofAccount]
  | importVolume about =>
    rintro e member
    rcases List.mem_cons.mp member with rfl | later
    · simp [subject, holder, named, Event.ofAccount]
    · exact triggered (about e later) (by simp [named])
  | trigger about | reap about =>
    exact fun e member => triggered (about e member) (by simp [named])
  | triggerMany about =>
    intro e member
    obtain ⟨id, listed, about⟩ := about e member
    exact triggered about listed

/-- A call that triggers nothing leaves every batch alone. -/
theorem untriggered_batches (contained : d.stamp.Contained) {call : Call} {value : Option Bytes32}
    (untriggered : triggers call = false) (ok : execute d msg w call = .ok (value, w')) {b : Bytes32}
    (occupied : (d.stamp.batches w.postage b).owner ≠ 0) :
    d.stamp.batches w'.postage b = d.stamp.batches w.postage b := by
  have alone : ∀ {e : Event}, Effect d msg w e w' → (∀ id amount newBalance,
      e ≠ .toppedup id amount newBalance) →
      d.stamp.batches w'.postage b = d.stamp.batches w.postage b := by
    intro e effect other
    rcases effect_batches contained effect occupied with same | ⟨id, ⟨amount, newBalance, topped⟩, _⟩
    · exact same
    · exact absurd topped (other id amount newBalance)
  cases call with
  | designateFundingWallet payer =>
    cases ok
    rfl
  | confirmAuth owner =>
    obtain ⟨_, ok, same⟩ := map_success ok
    cases same
    exact alone (confirmAuth_effect ok) nofun
  | revoke owner =>
    obtain ⟨_, ok, same⟩ := map_success ok
    cases same
    exact alone (revoke_effect ok) nofun
  | createVolume chunkSigner depth bucketDepth ttlExpiry immutableBatch =>
    obtain ⟨⟨id, left⟩, ok, same⟩ := map_success ok
    cases same
    obtain ⟨batchId, effect⟩ := createVolume_effect ok
    exact alone effect nofun
  | registerVolume batchId ttlExpiry =>
    obtain ⟨⟨id, left⟩, ok, same⟩ := map_success ok
    cases same
    exact alone (registerBatch_effect ok) nofun
  | deleteVolume id =>
    obtain ⟨_, ok, same⟩ := map_success ok
    cases same
    exact alone (deleteVolume_effect ok).2 nofun
  | reap id =>
    obtain ⟨_, ok, same⟩ := map_success ok
    cases same
    rcases reap_effect ok with rfl | ⟨_, effect⟩
    · rfl
    · exact alone effect nofun
  | _ => cases untriggered

/-- What a successful call leaves alone: other volumes' records, other owners'
accounts, existing batches but for balance added to those of the volumes it
triggers; and outside the account API what `getVolume` says of other volumes. -/
theorem non_interference (contained : d.stamp.Contained) {call : Call} {value : Option Bytes32}
    (ok : execute d msg w call = .ok (value, w')) :
    (∀ id, id ∉ named value call →
      unmoved (w'.store.volumes id) = unmoved (w.store.volumes id)) ∧
    (∀ o, o ∉ owners msg.sender call →
      w'.store.accounts o = w.store.accounts o ∧ w'.store.designated o = w.store.designated o) ∧
    (∀ b, (d.stamp.batches w.postage b).owner ≠ 0 →
      d.stamp.batches w'.postage b = d.stamp.batches w.postage b ∨
      (triggers call = true ∧ (∃ id ∈ named value call, (w'.store.volumes id).batchId = b) ∧
        Gains (d.stamp.batches w.postage b) (d.stamp.batches w'.postage b))) ∧
    (managesAccount call = false → ∀ id, id ∉ named value call →
      getVolume w'.store id = getVolume w.store id) := by
  obtain ⟨events, trace, emits⟩ := execute_effects ok
  have names := emits_named emits
  have records : ∀ id, id ∉ named value call →
      unmoved (w'.store.volumes id) = unmoved (w.store.volumes id) :=
    fun id other => trace_records trace fun e member same => other ((names e member).1 id same)
  have sender : msg.sender ∈ owners msg.sender call := by
    cases call with
    | _ => simp [owners]
  refine ⟨records, fun o other => ?_, fun b present => ?_, fun volume id other => ?_⟩
  · exact trace_accounts trace (fun same => other (same ▸ sender))
      fun e member same => other ((names e member).2.1 o same)
  · cases triggered : triggers call with
    | false => exact .inl (untriggered_batches contained triggered ok present)
    | true =>
      refine (trace_batches contained trace present).imp id ?_
      rintro ⟨id, ⟨amount, newBalance, member⟩, _, filled, gains⟩
      exact ⟨rfl, ⟨id, (names _ member).1 id rfl, filled⟩, gains⟩
  · obtain ⟨written, status⟩ := Prod.mk.inj (records id other)
    obtain ⟨payer, active⟩ := trace_authorization trace (fun e member => (names e member).2.2 volume)
      (w.store.volumes id).owner
    simp only [Volume.written, Prod.mk.injEq] at written
    obtain ⟨owner, chunkSigner, batchId, createdAt, ttlExpiry, depth⟩ := written
    unfold getVolume
    dsimp only
    rw [owner, chunkSigner, batchId, createdAt, ttlExpiry, depth, status, payer, active]

/-- The import of the sample leaves every other volume alone and only adds to its batch. -/
theorem non_interference_sample : ∃ value w',
    execute Sample.deployment ⟨Sample.owner, 4⟩ Sample.confirmed (.importVolume Sample.batch 0) =
      .ok (value, w') ∧
    (∀ id, id ∉ value.toList → getVolume w'.store id = getVolume Sample.confirmed.store id) ∧
    Gains (Sample.deployment.stamp.batches Sample.confirmed.postage Sample.batch)
      (Sample.deployment.stamp.batches w'.postage Sample.batch) := by
  obtain ⟨⟨value, w'⟩, ok⟩ : ∃ r, execute Sample.deployment ⟨Sample.owner, 4⟩ Sample.confirmed
      (.importVolume Sample.batch 0) = .ok r := success_of_isOk (by decide)
  obtain ⟨_, _, batches, views⟩ := non_interference Reference.stamp_contained ok
  refine ⟨value, w', ok, views rfl, ?_⟩
  rcases batches Sample.batch (by decide) with same | ⟨_, _, gains⟩
  · rw [same]
    exact .refl _
  · exact gains

end SwarmVolumes.Guarantees.NonInterference
