import SwarmVolumes.Library.Fallible
import SwarmVolumes.Source.Registry.Runs

/-!
# Inversions

What follows from the success of each internal function. `TriggerEnd` lists the
ways the trigger steps can end, with the guards passed on the way there; no
later proof unfolds `triggerOne` to see what it did.
-/
namespace SwarmVolumes.Source
open Library

variable {T P : Type} {d : Deployment T P} {msg : Msg} {w w' : World T P}

theorem orRevert_success {α : Type} {e : Revert} {o : Option α} {a : α}
    (ok : orRevert e o = .ok a) : o = some a := by
  cases o with
  | none => cases ok
  | some b => exact congrArg some (Except.ok.inj ok)

@[simp] theorem orRevert_some {α : Type} (e : Revert) (a : α) : orRevert e (some a) = .ok a := rfl

/-- `target` in `_triggerOne`, `perChunk` in `createVolume`: the product of two
64-bit words, which the checked multiplication never refuses. -/
def Deployment.target (d : Deployment T P) (postage : P) : Nat :=
  (d.stamp.lastPrice postage).toNat * d.graceBlocks.toNat

theorem Deployment.mul_target (d : Deployment T P) (postage : P) :
    Word.mul? (d.stamp.lastPrice postage).toNat d.graceBlocks.toNat = some (d.target postage) :=
  Word.uint64_mul? _ _

theorem Deployment.target_lt (d : Deployment T P) (postage : P) : d.target postage < 2 ^ 128 :=
  Word.uint64_mul_lt _ _

/-- The batch a volume rides on, as Postage has it now. -/
def Deployment.batchOf (d : Deployment T P) (postage : P) (v : Volume) : Batch :=
  d.stamp.batches postage v.batchId

/-! ## Logs -/

@[simp] theorem World.emit_store (w : World T P) (msg : Msg) (e : Event) :
    (w.emit msg e).store = w.store := rfl
@[simp] theorem World.emit_bzz (w : World T P) (msg : Msg) (e : Event) :
    (w.emit msg e).bzz = w.bzz := rfl
@[simp] theorem World.emit_postage (w : World T P) (msg : Msg) (e : Event) :
    (w.emit msg e).postage = w.postage := rfl
@[simp] theorem World.emit_block (w : World T P) (msg : Msg) (e : Event) :
    (w.emit msg e).block = w.block := rfl
@[simp] theorem World.absorb_store (w : World T P) (msg : Msg) (logs : List CalleeLog) :
    (w.absorb msg logs).store = w.store := rfl
@[simp] theorem World.absorb_bzz (w : World T P) (msg : Msg) (logs : List CalleeLog) :
    (w.absorb msg logs).bzz = w.bzz := rfl
@[simp] theorem World.absorb_postage (w : World T P) (msg : Msg) (logs : List CalleeLog) :
    (w.absorb msg logs).postage = w.postage := rfl
@[simp] theorem World.absorb_block (w : World T P) (msg : Msg) (logs : List CalleeLog) :
    (w.absorb msg logs).block = w.block := rfl

@[simp] theorem World.events_emit (w : World T P) (msg : Msg) (e : Event) :
    (w.emit msg e).events = w.events ++ [e] := by
  simp [World.events, World.emit, Record.event?]

@[simp] theorem World.events_absorb (w : World T P) (msg : Msg) (logs : List CalleeLog) :
    (w.absorb msg logs).events = w.events := by
  simp [World.events, World.absorb, Record.event?]

/-- The events of a world depend on its logs only. -/
theorem World.events_of_logs {w w' : World T P} (same : w'.logs = w.logs) : w'.events = w.events := by
  rw [World.events, same, World.events]

/-! ## Calls to BZZ and PostageStamp -/

theorem pull_success {payer : Address} {amount : Nat} (ok : pull d msg w payer amount = .ok w') :
    ∃ bzz logs, d.token.transferFrom w.block.timestamp w.bzz d.address payer d.address amount =
        some (true, bzz, logs) ∧ w' = { w with bzz }.absorb msg logs := by
  obtain ⟨⟨success, bzz, logs⟩, called, ok⟩ := bind_success ok
  cases success with
  | false => cases ok
  | true => exact ⟨bzz, logs, orRevert_success called, (Except.ok.inj ok).symm⟩

/-- What the precheck saw when it passed. -/
theorem canPull_true {payer : Address} {amount : Nat}
    (ok : canPull d w payer amount = .ok true) :
    amount ≤ d.token.balanceOf w.bzz payer ∧ amount ≤ d.token.allowance w.bzz payer d.address ∧
    (d.bzzPermitExpiry = true → d.token.allowance w.bzz payer d.address = Word.unlimited →
      ∀ expirations, d.token.expirations = some expirations →
        expirations w.bzz payer d.address = 0 ∨
          w.block.timestamp ≤ expirations w.bzz payer d.address) := by
  unfold canPull at ok
  split at ok
  · cases ok
  · rename_i funded
    dsimp only at ok
    split at ok
    · cases ok
    · rename_i allowed
      refine ⟨Nat.not_lt.mp funded, Nat.not_lt.mp allowed, fun flag whole expirations getter => ?_⟩
      rw [if_pos ⟨flag, whole⟩, getter, orRevert_some, ok_bind] at ok
      split at ok
      · cases ok
      · rename_i current
        by_contra neither
        rw [not_or, Nat.not_le] at neither
        exact current neither

/-- What it saw when it did not. -/
theorem canPull_false {payer : Address} {amount : Nat}
    (refused : canPull d w payer amount = .ok false) :
    d.token.balanceOf w.bzz payer < amount ∨ d.token.allowance w.bzz payer d.address < amount ∨
    (d.bzzPermitExpiry = true ∧ d.token.allowance w.bzz payer d.address = Word.unlimited ∧
      ∃ expirations, d.token.expirations = some expirations ∧
        expirations w.bzz payer d.address ≠ 0 ∧
        expirations w.bzz payer d.address < w.block.timestamp) := by
  unfold canPull at refused
  split at refused
  · exact .inl ‹_›
  · dsimp only at refused
    split at refused
    · exact .inr (.inl ‹_›)
    · split at refused
      · rename_i flagged
        obtain ⟨expirations, present, refused⟩ := bind_success refused
        split at refused
        · exact .inr (.inr ⟨flagged.1, flagged.2, expirations, orRevert_success present, ‹_›⟩)
        · cases refused
      · cases refused

/-- The precheck itself reverts only on a token without `expirations`. -/
theorem canPull_total (getter : d.bzzPermitExpiry = true →
      ∃ expirations, d.token.expirations = some expirations) (payer : Address) (amount : Nat) :
    ∃ payable, canPull d w payer amount = .ok payable := by
  unfold canPull
  split
  · exact ⟨_, rfl⟩
  · dsimp only
    split
    · exact ⟨_, rfl⟩
    · split
      · rename_i flagged
        obtain ⟨expirations, present⟩ := getter flagged.1
        rw [present, orRevert_some, ok_bind]
        split
        · exact ⟨_, rfl⟩
        · exact ⟨_, rfl⟩
      · exact ⟨_, rfl⟩

theorem approve_success {amount : Nat} (ok : approve d msg w amount = .ok w') :
    ∃ bzz logs, d.token.approve w.block.timestamp w.bzz d.address d.postage amount =
        some (true, bzz, logs) ∧ w' = { w with bzz }.absorb msg logs := by
  obtain ⟨⟨success, bzz, logs⟩, called, ok⟩ := bind_success ok
  cases success with
  | false => cases ok
  | true => exact ⟨bzz, logs, orRevert_success called, (Except.ok.inj ok).symm⟩

theorem topUp_success {batchId : Bytes32} {deficit : Nat}
    (ok : topUp d msg w batchId deficit = .ok w') :
    ∃ reply, d.stamp.topUp w.block w.bzz w.postage d.address batchId deficit = some reply ∧
      w' = { w with bzz := reply.bzz, postage := reply.postage }.absorb msg reply.logs := by
  obtain ⟨reply, called, ok⟩ := bind_success ok
  exact ⟨reply, orRevert_success called, (Except.ok.inj ok).symm⟩

theorem createBatch_success {chunkSigner : Address} {perChunk : Nat} {depth bucketDepth : UInt8}
    {immutableBatch : Bool} {batchId : Bytes32}
    (ok : createBatch d msg w chunkSigner perChunk depth bucketDepth immutableBatch =
      .ok (batchId, w')) :
    ∃ reply, d.stamp.createBatch w.block w.bzz w.postage d.address chunkSigner perChunk depth
        bucketDepth w.store.nextNonce immutableBatch = some reply ∧
      w' = { w with
        store := { w.store with nextNonce := w.store.nextNonce + 1 }
        bzz := reply.bzz
        postage := reply.postage }.absorb msg reply.logs := by
  obtain ⟨reply, called, ok⟩ := bind_success ok
  refine ⟨reply, orRevert_success called, ?_⟩
  dsimp only at ok
  split at ok
  · cases ok
  · exact (congrArg Prod.snd (Except.ok.inj ok)).symm

/-! ## Storage -/

/-- What a creating call announces of the record it writes. -/
structure Admission where
  volumeId : Bytes32
  owner : Address
  batchId : Bytes32
  chunkSigner : Address
  depth : UInt8
  ttlExpiry : UInt64

def Admission.record (a : Admission) (timestamp : Nat) (activeIndex : UInt32) : Volume :=
  ⟨a.owner, a.chunkSigner, a.batchId, UInt64.ofNat timestamp, a.ttlExpiry, a.depth, .active,
    activeIndex⟩

/-- Storage after `_recordVolume`: one nonce, one record, one more listed ID. -/
def Storage.enter (s : Storage) (a : Admission) (timestamp : Nat) : Storage :=
  { (s.setAccount a.owner { s.accounts a.owner with
      nonce := (s.accounts a.owner).nonce + 1 }).setVolume a.volumeId
        (a.record timestamp (UInt32.ofNat s.activeVolumeIds.length)) with
    activeVolumeIds := s.activeVolumeIds ++ [a.volumeId] }

section
variable (s : Storage) (a : Admission) (timestamp : Nat)

@[simp] theorem Storage.enter_ids :
    (s.enter a timestamp).activeVolumeIds = s.activeVolumeIds ++ [a.volumeId] := rfl

@[simp] theorem Storage.enter_designated : (s.enter a timestamp).designated = s.designated := rfl

theorem Storage.enter_volumes (x : Bytes32) : (s.enter a timestamp).volumes x =
    if x = a.volumeId then a.record timestamp (UInt32.ofNat s.activeVolumeIds.length)
    else s.volumes x :=
  setVolume_volumes x

theorem Storage.enter_accounts (o : Address) : (s.enter a timestamp).accounts o =
    if o = a.owner then { s.accounts o with nonce := (s.accounts o).nonce + 1 }
    else s.accounts o := by
  refine (setAccount_accounts o).trans ?_
  split
  · rename_i same
    rw [same]
  · rfl

end

/-- A record is written under an unused ID, and only the caller's nonce moves. -/
theorem Storage.recordVolume_success {s s' : Storage} {sender chunkSigner : Address}
    {timestamp : Nat} {batchId id : Bytes32} {depth : UInt8} {ttlExpiry : UInt64}
    (ok : s.recordVolume d sender timestamp batchId chunkSigner depth ttlExpiry = .ok (id, s')) :
    id = d.volumeId sender (s.accounts sender).nonce ∧ (s.volumes id).status = .none ∧
    s' = s.enter ⟨id, sender, batchId, chunkSigner, depth, ttlExpiry⟩ timestamp := by
  simp only [Storage.recordVolume] at ok
  split at ok
  · cases ok
  · rename_i unused
    rw [not_not] at unused
    injection ok with same
    injection same with first second
    subst first
    exact ⟨rfl, unused, second.symm⟩

theorem Storage.moveLast_frame {s s' : Storage} {idx : UInt32} {last : Nat}
    (ok : s.moveLast idx last = .ok s') :
    s'.accounts = s.accounts ∧ s'.designated = s.designated ∧
    (∀ x, (s'.volumes x).written = (s.volumes x).written ∧
      (s'.volumes x).status = (s.volumes x).status) ∧
    s'.activeVolumeIds ⊆ s.activeVolumeIds := by
  unfold Storage.moveLast at ok
  split at ok
  · injection ok with same
    subst same
    exact ⟨rfl, rfl, fun _ => ⟨rfl, rfl⟩, List.Subset.refl _⟩
  · obtain ⟨lastId, found, ok⟩ := bind_success ok
    split at ok
    · cases ok
    · injection ok with same
      subst same
      refine ⟨rfl, rfl, fun x => ?_, fun x member => ?_⟩
      · rw [setVolume_volumes]
        split
        · rename_i same
          subst same
          exact ⟨rfl, rfl⟩
        · exact ⟨rfl, rfl⟩
      · rcases List.mem_or_eq_of_mem_set member with kept | same
        · exact kept
        · rw [same]
          exact List.mem_of_getElem? (orRevert_success found)

/-- Swap-and-pop rewrites positions; of the rest it changes one status. -/
theorem Storage.retire_frame {s s' : Storage} {id : Bytes32} (ok : s.retire id = .ok s') :
    s'.accounts = s.accounts ∧ s'.designated = s.designated ∧
    (∀ x, (s'.volumes x).written = (s.volumes x).written ∧
      (s'.volumes x).status = if x = id then .retired else (s.volumes x).status) ∧
    s'.activeVolumeIds ⊆ s.activeVolumeIds := by
  unfold Storage.retire at ok
  obtain ⟨last, _, ok⟩ := bind_success ok
  obtain ⟨t, moved, ok⟩ := bind_success ok
  obtain ⟨u, popped, ok⟩ := bind_success ok
  obtain ⟨accounts, designated, records, ids⟩ := Storage.moveLast_frame moved
  unfold Storage.popActive at popped
  split at popped
  · cases popped
  · injection popped with same
    subst same
    injection ok with same
    subst same
    refine ⟨accounts, designated, fun x => ?_, List.Subset.trans (List.dropLast_subset _) ids⟩
    have record := records x
    simp only [setVolume_volumes] at record ⊢
    by_cases same : x = id
    · subst same
      simpa using record
    · simpa [same] using record

/-! ## Trigger steps -/

/-- `ttlExpiry` is set and has passed. -/
def Volume.Expired (v : Volume) (now : Nat) : Prop := v.ttlExpiry ≠ 0 ∧ v.ttlExpiry.toNat ≤ now

instance (v : Volume) (now : Nat) : Decidable (v.Expired now) := inferInstanceAs (Decidable (_ ∧ _))

/-- The batch exists and has not run out. -/
structure Live (d : Deployment T P) (w : World T P) (batchId : Bytes32) (outpayment : Nat) :
    Prop where
  read : d.stamp.currentTotalOutPayment w.block w.postage = some outpayment
  present : (d.stamp.batches w.postage batchId).owner ≠ 0
  alive : outpayment < (d.stamp.batches w.postage batchId).normalisedBalance

/-- The trigger steps on `v` get past every retirement edge. -/
structure Due (d : Deployment T P) (w : World T P) (v : Volume) (outpayment : Nat) : Prop
    extends Live d w v.batchId outpayment where
  active : v.status = .active
  owner : (d.batchOf w.postage v).owner = v.chunkSigner
  depth : (d.batchOf w.postage v).depth = v.depth
  unexpired : ¬ v.Expired w.block.timestamp

/-- The retirement edges of the trigger steps, in the order they are tried. -/
inductive RetireEdge (d : Deployment T P) (w : World T P) (v : Volume) : RetireReason → Prop
  | batchDied {outpayment : Nat}
      (read : d.stamp.currentTotalOutPayment w.block w.postage = some outpayment)
      (dead : (d.batchOf w.postage v).owner = 0 ∨
        (d.batchOf w.postage v).normalisedBalance ≤ outpayment) :
      RetireEdge d w v .batchDied
  | batchOwnerMismatch {outpayment : Nat} (live : Live d w v.batchId outpayment)
      (owner : (d.batchOf w.postage v).owner ≠ v.chunkSigner) :
      RetireEdge d w v .batchOwnerMismatch
  | depthChanged {outpayment : Nat} (live : Live d w v.batchId outpayment)
      (owner : (d.batchOf w.postage v).owner = v.chunkSigner)
      (depth : (d.batchOf w.postage v).depth ≠ v.depth) :
      RetireEdge d w v .depthChanged
  | volumeExpired {outpayment : Nat} (live : Live d w v.batchId outpayment)
      (owner : (d.batchOf w.postage v).owner = v.chunkSigner)
      (depth : (d.batchOf w.postage v).depth = v.depth)
      (expired : v.Expired w.block.timestamp) :
      RetireEdge d w v .volumeExpired

section
variable {v : Volume} {outpayment : Nat}

theorem live_not_dead {b : Bytes32} (live : Live d w b outpayment) {read : Nat}
    (same : d.stamp.currentTotalOutPayment w.block w.postage = some read) :
    ¬ ((d.stamp.batches w.postage b).owner = 0 ∨ (d.stamp.batches w.postage b).normalisedBalance ≤ read) := by
  obtain rfl := Option.some.inj (live.read.symm.trans same)
  rintro (missing | expired)
  · exact live.present missing
  · exact absurd live.alive (Nat.not_lt.mpr expired)

/-- The edges are tried in order, so a volume has at most one. -/
theorem edge_unique {reason reason' : RetireReason} (first : RetireEdge d w v reason)
    (second : RetireEdge d w v reason') : reason = reason' := by
  cases first with
  | batchDied read dead =>
    cases second with
    | batchDied => rfl
    | batchOwnerMismatch live => exact absurd dead (live_not_dead live read)
    | depthChanged live => exact absurd dead (live_not_dead live read)
    | volumeExpired live => exact absurd dead (live_not_dead live read)
  | batchOwnerMismatch live mismatch =>
    cases second with
    | batchDied read dead => exact absurd dead (live_not_dead live read)
    | batchOwnerMismatch => rfl
    | depthChanged _ owner => exact absurd owner mismatch
    | volumeExpired _ owner => exact absurd owner mismatch
  | depthChanged live owner changed =>
    cases second with
    | batchDied read dead => exact absurd dead (live_not_dead live read)
    | batchOwnerMismatch _ mismatch => exact absurd owner mismatch
    | depthChanged => rfl
    | volumeExpired _ _ depth => exact absurd depth changed
  | volumeExpired live owner depth =>
    cases second with
    | batchDied read dead => exact absurd dead (live_not_dead live read)
    | batchOwnerMismatch _ mismatch => exact absurd owner mismatch
    | depthChanged _ _ changed => exact absurd depth changed
    | volumeExpired => rfl

/-- A volume that is due has no edge. -/
theorem no_edge (due : Due d w v outpayment) {reason : RetireReason} : ¬ RetireEdge d w v reason := by
  intro edge
  cases edge with
  | batchDied read dead => exact live_not_dead due.toLive read dead
  | batchOwnerMismatch live mismatch => exact mismatch due.owner
  | depthChanged live owner changed => exact changed due.depth
  | volumeExpired live owner depth expired => exact due.unexpired expired

end

/-- What the batch has left for each chunk. -/
def Deployment.remaining (d : Deployment T P) (postage : P) (v : Volume) (outpayment : Nat) : Nat :=
  (d.batchOf postage v).normalisedBalance - outpayment

/-- What it lacks; 0 at target and above. -/
def Deployment.deficit (d : Deployment T P) (postage : P) (v : Volume) (outpayment : Nat) : Nat :=
  d.target postage - d.remaining postage v outpayment

/-- The ways the trigger steps on `id` can end without a revert. -/
inductive TriggerEnd (d : Deployment T P) (msg : Msg) (w : World T P) (id : Bytes32) :
    TriggerOutcome → World T P → Prop
  | idle (status : (w.store.volumes id).status ≠ .active) :
      TriggerEnd d msg w id .skipped (w.emit msg (.topupSkipped id
        (if (w.store.volumes id).status = .none then .notFound else .notActive)))
  | retired {reason : RetireReason} {store : Storage}
      (active : (w.store.volumes id).status = .active)
      (edge : RetireEdge d w (w.store.volumes id) reason)
      (retired : w.store.retire id = .ok store) :
      TriggerEnd d msg w id .retired ({ w with store }.emit msg (.volumeRetired id reason))
  | noAuth {outpayment : Nat} (due : Due d w (w.store.volumes id) outpayment)
      (inactive : (w.store.accounts (w.store.volumes id).owner).active = false) :
      TriggerEnd d msg w id .skipped (w.emit msg (.topupSkipped id .noAuth))
  | noDeficit {outpayment : Nat} (due : Due d w (w.store.volumes id) outpayment)
      (auth : (w.store.accounts (w.store.volumes id).owner).active = true)
      (full : d.target w.postage ≤ d.remaining w.postage (w.store.volumes id) outpayment) :
      TriggerEnd d msg w id .noDeficit w
  | paymentFailed {outpayment : Nat} (due : Due d w (w.store.volumes id) outpayment)
      (auth : (w.store.accounts (w.store.volumes id).owner).active = true)
      (short : d.remaining w.postage (w.store.volumes id) outpayment < d.target w.postage)
      (refused : canPull d w (w.store.accounts (w.store.volumes id).owner).payer
        (Word.shl (d.deficit w.postage (w.store.volumes id) outpayment)
          (w.store.volumes id).depth.toNat) = .ok false) :
      TriggerEnd d msg w id .skipped (w.emit msg (.topupSkipped id .paymentFailed))
  | toppedUp {outpayment amount : Nat} {w₁ w₂ w₃ : World T P}
      (due : Due d w (w.store.volumes id) outpayment)
      (auth : (w.store.accounts (w.store.volumes id).owner).active = true)
      (short : d.remaining w.postage (w.store.volumes id) outpayment < d.target w.postage)
      (shifted : amount = Word.shl (d.deficit w.postage (w.store.volumes id) outpayment)
        (w.store.volumes id).depth.toNat)
      (payable : canPull d w (w.store.accounts (w.store.volumes id).owner).payer amount = .ok true)
      (pulled : pull d msg w (w.store.accounts (w.store.volumes id).owner).payer amount = .ok w₁)
      (approved : approve d msg w₁ amount = .ok w₂)
      (topped : topUp d msg w₂ (w.store.volumes id).batchId
        (d.deficit w.postage (w.store.volumes id) outpayment) = .ok w₃) :
      TriggerEnd d msg w id .toppedUp (w₃.emit msg (.toppedup id amount
        ((d.batchOf w.postage (w.store.volumes id)).normalisedBalance +
          d.deficit w.postage (w.store.volumes id) outpayment)))

theorem retire_success {id : Bytes32} {reason : RetireReason}
    (ok : retire msg w id reason = .ok w') :
    ∃ store, w.store.retire id = .ok store ∧
      w' = { w with store }.emit msg (.volumeRetired id reason) := by
  obtain ⟨store, stored, ok⟩ := bind_success ok
  exact ⟨store, stored, (Except.ok.inj ok).symm⟩

private theorem retired_end {id : Bytes32} {reason : RetireReason} {outcome : TriggerOutcome}
    (active : (w.store.volumes id).status = .active)
    (edge : RetireEdge d w (w.store.volumes id) reason)
    (ok : retired msg w id reason = .ok (outcome, w')) : TriggerEnd d msg w id outcome w' := by
  obtain ⟨left, gone, ok⟩ := bind_success ok
  obtain ⟨store, stored, rfl⟩ := retire_success gone
  cases ok
  exact .retired active edge stored

private theorem payDeficit_end {id : Bytes32} {outpayment : Nat} {outcome : TriggerOutcome}
    (due : Due d w (w.store.volumes id) outpayment)
    (auth : (w.store.accounts (w.store.volumes id).owner).active = true)
    (short : d.remaining w.postage (w.store.volumes id) outpayment < d.target w.postage)
    (ok : payDeficit d msg w id (w.store.volumes id)
      (w.store.accounts (w.store.volumes id).owner).payer
      (d.batchOf w.postage (w.store.volumes id)).normalisedBalance
      (d.deficit w.postage (w.store.volumes id) outpayment) = .ok (outcome, w')) :
    TriggerEnd d msg w id outcome w' := by
  unfold payDeficit at ok
  obtain ⟨payable, checked, ok⟩ := bind_success ok
  split at ok
  · rename_i refused
    subst refused
    cases ok
    exact .paymentFailed due auth short checked
  · rename_i accepted
    rw [Bool.not_eq_false] at accepted
    subst accepted
    obtain ⟨w₁, pulled, ok⟩ := bind_success ok
    obtain ⟨w₂, approved, ok⟩ := bind_success ok
    obtain ⟨w₃, topped, ok⟩ := bind_success ok
    obtain ⟨newBalance, added, ok⟩ := bind_success ok
    obtain ⟨_, rfl⟩ := Word.add?_eq_some.mp (orRevert_success added)
    cases ok
    exact .toppedUp due auth short rfl checked pulled approved topped

private theorem settleDeficit_end {id : Bytes32} {outpayment : Nat} {outcome : TriggerOutcome}
    (due : Due d w (w.store.volumes id) outpayment)
    (ok : settleDeficit d msg w id (w.store.volumes id)
      (d.batchOf w.postage (w.store.volumes id)).normalisedBalance outpayment =
      .ok (outcome, w')) :
    TriggerEnd d msg w id outcome w' := by
  unfold settleDeficit at ok
  dsimp only at ok
  split at ok
  · rename_i inactive
    cases ok
    exact .noAuth due inactive
  · rename_i auth
    rw [Bool.not_eq_false] at auth
    obtain ⟨remaining, left, ok⟩ := bind_success ok
    obtain ⟨target, multiplied, ok⟩ := bind_success ok
    obtain ⟨_, rfl⟩ := Word.sub?_eq_some.mp (orRevert_success left)
    rw [d.mul_target, orRevert_some] at multiplied
    cases multiplied
    split at ok
    · rename_i full
      cases ok
      exact .noDeficit due auth full
    · rename_i short
      obtain ⟨deficit, lacking, ok⟩ := bind_success ok
      obtain ⟨_, rfl⟩ := Word.sub?_eq_some.mp (orRevert_success lacking)
      exact payDeficit_end due auth (Nat.lt_of_not_le short) ok

/-- The inversion of `_triggerOne`. -/
theorem triggerOne_end {id : Bytes32} {outcome : TriggerOutcome}
    (ok : triggerOne d msg w id = .ok (outcome, w')) : TriggerEnd d msg w id outcome w' := by
  unfold triggerOne at ok
  dsimp only at ok
  split at ok
  · rename_i status
    cases ok
    exact .idle status
  · rename_i active
    rw [not_not] at active
    obtain ⟨outpayment, read, ok⟩ := bind_success ok
    have read := orRevert_success read
    split at ok
    · rename_i dead
      exact retired_end active (.batchDied read dead) ok
    · rename_i lives
      rw [not_or, Nat.not_le] at lives
      have live : Live d w (w.store.volumes id).batchId outpayment := ⟨read, lives.1, lives.2⟩
      split at ok
      · rename_i owner
        exact retired_end active (.batchOwnerMismatch live owner) ok
      · rename_i owner
        rw [not_not] at owner
        split at ok
        · rename_i depth
          exact retired_end active (.depthChanged live owner depth) ok
        · rename_i depth
          rw [not_not] at depth
          split at ok
          · rename_i expired
            exact retired_end active (.volumeExpired live owner depth expired) ok
          · rename_i unexpired
            exact settleDeficit_end ⟨live, active, owner, depth, unexpired⟩ ok

/-- A top-up got past every retirement edge and found an active account. -/
theorem toppedUp_due {id : Bytes32} (ok : triggerOne d msg w id = .ok (.toppedUp, w')) :
    ∃ outpayment, Due d w (w.store.volumes id) outpayment ∧
      (w.store.accounts (w.store.volumes id).owner).active = true := by
  cases triggerOne_end ok with
  | toppedUp due auth => exact ⟨_, due, auth⟩

/-! ## Computing the trigger steps -/

/-- Swap-and-pop needs nothing but the stored position in bounds. -/
theorem Storage.retire_total {s : Storage} {id : Bytes32}
    (bound : (s.volumes id).activeIndex.toNat < s.activeVolumeIds.length) :
    ∃ s', s.retire id = .ok s' := by
  let marked := s.setVolume id ((s.volumes id).setStatus .retired)
  have index : (marked.volumes id).activeIndex = (s.volumes id).activeIndex := by
    rw [setVolume_same, Volume.setStatus_index]
  have last : Word.sub? marked.activeVolumeIds.length 1 = some (marked.activeVolumeIds.length - 1) :=
    Word.sub?_eq_some.mpr ⟨Nat.one_le_of_lt bound, rfl⟩
  obtain ⟨moved, moves, nonempty⟩ : ∃ moved, marked.moveLast (s.volumes id).activeIndex
      (marked.activeVolumeIds.length - 1) = .ok moved ∧ moved.activeVolumeIds ≠ [] := by
    have nonempty : s.activeVolumeIds ≠ [] := List.ne_nil_of_length_pos (Nat.zero_lt_of_lt bound)
    unfold Storage.moveLast
    by_cases final : (s.volumes id).activeIndex.toNat = marked.activeVolumeIds.length - 1
    · exact ⟨marked, if_pos final, nonempty⟩
    · have inside : marked.activeVolumeIds.length - 1 < marked.activeVolumeIds.length :=
        Nat.sub_one_lt (List.length_pos_iff.mpr nonempty).ne'
      rw [if_neg final, List.getElem?_eq_getElem inside, orRevert_some, ok_bind]
      refine ⟨_, if_neg (Nat.not_le.mpr bound), ?_⟩
      exact List.ne_nil_of_length_pos (by
        rw [setVolume_ids, List.length_set]
        exact Nat.zero_lt_of_lt bound)
  have popped : moved.popActive =
      .ok { moved with activeVolumeIds := moved.activeVolumeIds.dropLast } := if_neg nonempty
  unfold Storage.retire
  change ∃ s', (orRevert .overflow (Word.sub? marked.activeVolumeIds.length 1) >>= _) = .ok s'
  rw [last, orRevert_some, ok_bind]
  change ∃ s', (marked.moveLast (marked.volumes id).activeIndex _ >>= _) = .ok s'
  rw [index, moves, ok_bind, popped, ok_bind]
  exact ⟨_, rfl⟩

theorem retired_of_stored {id : Bytes32} {reason : RetireReason} {store : Storage}
    (stored : w.store.retire id = .ok store) : retired msg w id reason =
      .ok (.retired, { w with store }.emit msg (.volumeRetired id reason)) := by
  rw [retired, retire, stored]
  rfl

/-- Past the status and the liveness of its batch. -/
theorem triggerOne_of_live {id : Bytes32} {outpayment : Nat}
    (active : (w.store.volumes id).status = .active)
    (live : Live d w (w.store.volumes id).batchId outpayment)
    (owner : (d.batchOf w.postage (w.store.volumes id)).owner = (w.store.volumes id).chunkSigner)
    (depth : (d.batchOf w.postage (w.store.volumes id)).depth = (w.store.volumes id).depth) :
    triggerOne d msg w id =
      if (w.store.volumes id).Expired w.block.timestamp then retired msg w id .volumeExpired
      else settleDeficit d msg w id (w.store.volumes id)
        (d.batchOf w.postage (w.store.volumes id)).normalisedBalance outpayment := by
  unfold Deployment.batchOf at owner depth
  unfold triggerOne
  dsimp only
  rw [if_neg (not_not.mpr active), live.read, orRevert_some, ok_bind,
    if_neg (not_or.mpr ⟨live.present, Nat.not_le.mpr live.alive⟩), if_neg (not_not.mpr owner),
    if_neg (not_not.mpr depth)]
  rfl

/-- An edge retires, provided the list has a place to free. -/
theorem triggerOne_of_edge {id : Bytes32} {reason : RetireReason} {store : Storage}
    (active : (w.store.volumes id).status = .active)
    (edge : RetireEdge d w (w.store.volumes id) reason)
    (stored : w.store.retire id = .ok store) : triggerOne d msg w id =
      .ok (.retired, { w with store }.emit msg (.volumeRetired id reason)) := by
  have gone : ∀ reason, retired msg w id reason =
      .ok (.retired, { w with store }.emit msg (.volumeRetired id reason)) :=
    fun _ => retired_of_stored stored
  unfold triggerOne
  dsimp only
  rw [if_neg (not_not.mpr active)]
  cases edge with
  | batchDied read dead =>
    rw [read, orRevert_some, ok_bind]
    exact (if_pos dead).trans (gone _)
  | batchOwnerMismatch live owner =>
    rw [live.read, orRevert_some, ok_bind, if_neg (live_not_dead live live.read)]
    exact (if_pos owner).trans (gone _)
  | depthChanged live owner depth =>
    rw [live.read, orRevert_some, ok_bind, if_neg (live_not_dead live live.read)]
    exact (if_neg (not_not.mpr owner)).trans ((if_pos depth).trans (gone _))
  | volumeExpired live owner depth expired =>
    rw [live.read, orRevert_some, ok_bind, if_neg (live_not_dead live live.read)]
    exact (if_neg (not_not.mpr owner)).trans
      ((if_neg (not_not.mpr depth)).trans ((if_pos expired).trans (gone _)))

/-- Past the account. -/
theorem settleDeficit_of_auth {id : Bytes32} {v : Volume} {balance outpayment : Nat}
    (auth : (w.store.accounts v.owner).active = true) (alive : outpayment < balance) :
    settleDeficit d msg w id v balance outpayment =
      if d.target w.postage ≤ balance - outpayment then .ok (.noDeficit, w)
      else payDeficit d msg w id v (w.store.accounts v.owner).payer balance
        (d.target w.postage - (balance - outpayment)) := by
  unfold settleDeficit
  dsimp only
  rw [if_neg (by simp [auth]), Word.sub?_eq_some.mpr ⟨alive.le, rfl⟩, orRevert_some, ok_bind,
    d.mul_target, orRevert_some, ok_bind]
  split
  · rfl
  · rename_i short
    rw [Word.sub?_eq_some.mpr ⟨(Nat.not_le.mp short).le, rfl⟩, orRevert_some, ok_bind]

/-- A volume that is due reaches its payment exactly when its batch is short. -/
theorem triggerOne_of_due {id : Bytes32} {outpayment : Nat}
    (due : Due d w (w.store.volumes id) outpayment)
    (auth : (w.store.accounts (w.store.volumes id).owner).active = true) :
    triggerOne d msg w id =
      if d.target w.postage ≤ d.remaining w.postage (w.store.volumes id) outpayment then
        .ok (.noDeficit, w)
      else payDeficit d msg w id (w.store.volumes id)
        (w.store.accounts (w.store.volumes id).owner).payer
        (d.batchOf w.postage (w.store.volumes id)).normalisedBalance
        (d.deficit w.postage (w.store.volumes id) outpayment) := by
  have alive : outpayment < (d.batchOf w.postage (w.store.volumes id)).normalisedBalance := due.alive
  rw [triggerOne_of_live due.active due.toLive due.owner due.depth, if_neg due.unexpired,
    settleDeficit_of_auth auth alive]
  rfl

end SwarmVolumes.Source
