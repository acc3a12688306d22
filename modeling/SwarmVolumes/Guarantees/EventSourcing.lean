import SwarmVolumes.Library.Latest
import SwarmVolumes.Source.Registry.Logs
import SwarmVolumes.Source.Registry.Sample
import SwarmVolumes.Source.Registry.Views

/-!
# The log is the registry

The events of a run, each with the time of its block, are all of storage: a
replica that folds them rebuilds every slot (`log_rebuilds_storage`), and what
`getVolume` and `getAccount` answer can be read off them without any state
(`views_from_log`).
-/
namespace SwarmVolumes.Guarantees.EventSourcing
open Library Source

/-- An event and the timestamp of its block. -/
abbrev Told := Nat × Event

def Record.told (r : Record) : Option Told := r.event?.map fun e => (r.block.timestamp, e)

/-- What the registry logged so far, as an observer of the chain reads it. -/
def told {T P : Type} (w : World T P) : List Told := w.logs.filterMap Record.told

/-! ## A replica -/

/-- What one event makes of a replica's storage. -/
def rebuild (s : Storage) (t : Told) : Storage :=
  match t.2 with
  | .payerDesignated owner payer =>
    { s with designated := Function.update s.designated owner payer }
  | .accountActivated owner payer =>
    s.setAccount owner { s.accounts owner with payer, active := true }
  | .accountRevoked owner _ _ => s.setAccount owner { s.accounts owner with active := false }
  | .volumeCreated volumeId owner batchId chunkSigner depth ttlExpiry =>
    { s with nextNonce := s.nextNonce + 1 }.enter
      ⟨volumeId, owner, batchId, chunkSigner, depth, ttlExpiry⟩ t.1
  | .volumeImported volumeId owner batchId chunkSigner depth ttlExpiry _ =>
    s.enter ⟨volumeId, owner, batchId, chunkSigner, depth, ttlExpiry⟩ t.1
  | .volumeRetired volumeId _ => (s.retire volumeId).toOption.getD s
  | .toppedup .. | .topupSkipped .. => s

variable {T P : Type} {d : Deployment T P} {msg : Msg} {w w' : World T P} {e : Event}

theorem effect_told (effect : Effect d msg w e w') :
    told w' = told w ++ [(w.block.timestamp, e)] := by
  obtain ⟨more, grown, here⟩ := effect.logs
  have events : more.filterMap Record.event? = [e] := by
    have all := effect.store.2.1
    rw [World.events, World.events, grown, List.filterMap_append] at all
    exact List.append_cancel_left all
  have pairs : more.filterMap Record.told =
      (more.filterMap Record.event?).map fun e => (w.block.timestamp, e) := by
    rw [List.map_filterMap]
    apply List.filterMap_congr
    intro r member
    rw [Record.told, here r member]
  rw [told, told, grown, List.filterMap_append, pairs, events]
  rfl

theorem effect_rebuild (effect : Effect d msg w e w') :
    w'.store = rebuild w.store (w.block.timestamp, e) := by
  cases effect with
  | designated payer => rfl
  | activated owner named => rfl
  | revoked owner allowed => rfl
  | created auth signer shifted pulled approved made recorded =>
    obtain ⟨store₁, _, block₁, _⟩ := pull_frame pulled
    obtain ⟨store₂, _, block₂, _⟩ := approve_frame approved
    obtain ⟨store₃, _, block₃⟩ := createBatch_frame made
    rw [store₃, store₂, store₁, block₃, block₂, block₁] at recorded
    exact (Storage.recordVolume_success recorded).2.2
  | imported auth live deep recorded => exact (Storage.recordVolume_success recorded).2.2
  | retired active retired named =>
    simp only [World.emit_store, rebuild, retired]
    rfl
  | toppedUp due auth shifted pulled approved topped =>
    obtain ⟨store₁, _⟩ := pull_frame pulled
    obtain ⟨store₂, _⟩ := approve_frame approved
    obtain ⟨store₃, _⟩ := topUp_frame topped
    exact store₃.trans (store₂.trans store₁)
  | skipped guarded => rfl

variable {outside : World T P → World T P → Prop} {w₀ : World T P} {es : List (Entry T P)}

/-- The invariant rule for storage together with the log so far. -/
theorem run_told (deployed : Deployed d w₀) (I : List Told → Storage → Prop) (start : I [] .empty)
    (kept : ∀ history sender s timestamp e s', External d sender → StoreStep d sender s e s' →
      s' = rebuild s (timestamp, e) → I history s → I (history ++ [(timestamp, e)]) s')
    (run : Run d outside w₀ es w) : I (told w) w.store := by
  apply run.invariant_effects (fun w => I (told w) w.store)
  · rw [deployed.store, told, deployed.unlogged]
    exact start
  · intro w w' same _ held
    rwa [told, same.logs, same.store]
  · intro msg w e w' external effect held
    rw [effect_told effect]
    exact kept _ _ _ _ _ _ external effect.store.1 (effect_rebuild effect) held

/-- A slot that every event either sets or leaves holds what the log set last. -/
theorem run_register {α : Type} (deployed : Deployed d w₀) (read : Storage → α)
    (set : Told → Option α)
    (kept : ∀ sender s timestamp e s', External d sender → StoreStep d sender s e s' →
      s' = rebuild s (timestamp, e) → read s' = (set (timestamp, e)).getD (read s))
    (run : Run d outside w₀ es w) : read w.store = (latest set (told w)).getD (read .empty) := by
  apply run_told deployed (fun history s => read s = (latest set history).getD (read .empty)) rfl ?_ run
  intro history sender s timestamp e s' external step rebuilt held
  rw [latest_getD_snoc, kept sender s timestamp e s' external step rebuilt, held]

/-- Storage is the fold of the log: nothing is in it that no event told, whatever the
callers, the token and PostageStamp did. -/
theorem log_rebuilds_storage (deployed : Deployed d w₀) (run : Run d outside w₀ es w) :
    w.store = (told w).foldl rebuild .empty := by
  apply run_told deployed (fun history s => s = history.foldl rebuild .empty) rfl ?_ run
  intro history sender s timestamp e s' _ _ rebuilt held
  rw [List.foldl_concat, ← held, rebuilt]

theorem log_rebuilds_storage_sample :
    Sample.final.store = (told Sample.final).foldl rebuild .empty :=
  log_rebuilds_storage Sample.deployed (Sample.run anything_refl)

/-! ## Views without state -/

/-- The payer an owner confirmed, if the event is a confirmation. -/
def confirmation (o : Address) (t : Told) : Option Address :=
  match t.2 with
  | .accountActivated owner payer => if owner = o then some payer else none
  | _ => none

/-- Whether an account is on after the event, if the event is about it. -/
def authorization (o : Address) (t : Told) : Option Bool :=
  match t.2 with
  | .accountActivated owner _ => if owner = o then some true else none
  | .accountRevoked owner _ _ => if owner = o then some false else none
  | _ => none

/-- The status a volume has after the event, if the event changes it. -/
def lifecycle (id : Bytes32) (t : Told) : Option Status :=
  match t.2 with
  | .volumeCreated volumeId .. | .volumeImported volumeId .. =>
    if volumeId = id then some .active else none
  | .volumeRetired volumeId _ => if volumeId = id then some .retired else none
  | _ => none

/-- The fields a volume is admitted with. -/
def admitted (id : Bytes32) (t : Told) :
    Option (Address × Address × Bytes32 × UInt64 × UInt64 × UInt8) :=
  t.2.admission.bind fun a => if a.volumeId = id then some (a.record t.1 0).written else none

/-- `getVolume`, answered from the log. -/
def viewOf (history : List Told) (id : Bytes32) : VolumeView :=
  let (owner, chunkSigner, batchId, createdAt, ttlExpiry, depth) :=
    (latest (admitted id) history).getD Volume.zero.written
  { volumeId := id
    batchId
    owner
    payer := (latest (confirmation owner) history).getD 0
    chunkSigner
    createdAt
    ttlExpiry
    depth
    status := (latest (lifecycle id) history).getD .none
    accountActive := (latest (authorization owner) history).getD false }

/-- The event admits a volume of `o`. -/
def admits (o : Address) (t : Told) : Bool := t.2.admission.any fun a => a.owner = o

/-- `getAccount`, answered from the log. -/
def accountOf (history : List Told) (o : Address) : Account :=
  { payer := (latest (confirmation o) history).getD 0
    active := (latest (authorization o) history).getD false
    nonce := UInt64.ofNat (history.countP (admits o)) }

theorem admission_lifecycle {a : Admission} (announced : e.admission = some a) (id : Bytes32)
    (timestamp : Nat) :
    lifecycle id (timestamp, e) = if a.volumeId = id then some .active else none := by
  cases e with
  | volumeCreated => cases announced; rfl
  | volumeImported => cases announced; rfl
  | _ => cases announced

theorem admission_account {a : Admission} (announced : e.admission = some a) (o : Address)
    (timestamp : Nat) :
    confirmation o (timestamp, e) = none ∧ authorization o (timestamp, e) = none := by
  cases e with
  | volumeCreated => exact ⟨rfl, rfl⟩
  | volumeImported => exact ⟨rfl, rfl⟩
  | _ => cases announced

theorem rebuild_admission {a : Admission} (announced : e.admission = some a) (s : Storage)
    (timestamp : Nat) :
    ∃ nextNonce, rebuild s (timestamp, e) = { s with nextNonce }.enter a timestamp := by
  cases e with
  | volumeCreated => cases announced; exact ⟨_, rfl⟩
  | volumeImported => cases announced; exact ⟨s.nextNonce, rfl⟩
  | _ => cases announced

theorem run_accounts (deployed : Deployed d w₀) (run : Run d outside w₀ es w) (o : Address) :
    (w.store.accounts o).payer = (latest (confirmation o) (told w)).getD 0 ∧
    (w.store.accounts o).active = (latest (authorization o) (told w)).getD false := by
  have pair : ∀ sender s timestamp e s', External d sender → StoreStep d sender s e s' →
      s' = rebuild s (timestamp, e) →
      (s'.accounts o).payer = (confirmation o (timestamp, e)).getD (s.accounts o).payer ∧
      (s'.accounts o).active = (authorization o (timestamp, e)).getD (s.accounts o).active := by
    intro sender s timestamp e s' _ step _
    cases step with
    | designated payer => exact ⟨rfl, rfl⟩
    | activated owner named =>
      rw [Storage.setAccount_accounts]
      by_cases same : o = owner
      · simp [confirmation, authorization, same]
      · simp [confirmation, authorization, same, Ne.symm same]
    | revoked owner allowed =>
      rw [Storage.setAccount_accounts]
      by_cases same : o = owner
      · simp [confirmation, authorization, same]
      · simp [confirmation, authorization, same, Ne.symm same]
    | admitted time nextNonce announced owner auth named unused =>
      obtain ⟨unconfirmed, unauthorized⟩ := admission_account announced o timestamp
      rw [unconfirmed, unauthorized, Storage.enter_accounts]
      split
      · exact ⟨rfl, rfl⟩
      · exact ⟨rfl, rfl⟩
    | retired active retired named =>
      rw [(Storage.retire_frame retired).1]
      exact ⟨rfl, rfl⟩
    | toppedUp active => exact ⟨rfl, rfl⟩
    | skipped guarded => exact ⟨rfl, rfl⟩
  constructor
  · apply run_register deployed (fun s => (s.accounts o).payer) (confirmation o) ?_ run
    intro sender s timestamp e s' external step rebuilt
    exact (pair sender s timestamp e s' external step rebuilt).1
  · apply run_register deployed (fun s => (s.accounts o).active) (authorization o) ?_ run
    intro sender s timestamp e s' external step rebuilt
    exact (pair sender s timestamp e s' external step rebuilt).2

/-- An account's nonce counts the admissions of its owner's volumes. -/
theorem run_nonce (deployed : Deployed d w₀) (run : Run d outside w₀ es w) (o : Address) :
    (w.store.accounts o).nonce = UInt64.ofNat ((told w).countP (admits o)) := by
  apply run_told deployed
    (fun history s => (s.accounts o).nonce = UInt64.ofNat (history.countP (admits o))) rfl ?_ run
  intro history sender s timestamp e s' _ step _ held
  rw [List.countP_append, List.countP_singleton]
  cases announced : e.admission with
  | none =>
    have quiet : admits o (timestamp, e) = false := by simp [admits, announced]
    rw [(step_quiet announced step).1, held, quiet]
    rfl
  | some a =>
    obtain ⟨owner, nonces⟩ : a.owner = sender ∧ (s'.accounts o).nonce =
        if o = sender then (s.accounts o).nonce + 1 else (s.accounts o).nonce := by
      cases step with
      | admitted time nextNonce admission owner auth named unused =>
        obtain rfl := Option.some.inj (announced.symm.trans admission)
        refine ⟨owner, ?_⟩
        rw [Storage.enter_accounts, owner]
        split
        · rfl
        · rfl
      | _ => cases announced
    rw [nonces, held]
    by_cases same : o = sender
    · simp [admits, announced, owner, same, UInt64.ofNat_add]
    · simp [admits, announced, owner, same, Ne.symm same]

theorem run_status (deployed : Deployed d w₀) (run : Run d outside w₀ es w) (id : Bytes32) :
    (w.store.volumes id).status = (latest (lifecycle id) (told w)).getD .none := by
  apply run_register deployed (fun s => (s.volumes id).status) (lifecycle id) ?_ run
  intro sender s timestamp e s' _ step _
  cases step with
  | @admitted _ a time nextNonce announced owner auth named unused =>
    rw [admission_lifecycle announced, Storage.enter_volumes]
    by_cases same : id = a.volumeId
    · simp [same, Admission.record]
    · simp [same, Ne.symm same]
  | @retired other reason s' active retired named =>
    rw [((Storage.retire_frame retired).2.2.1 id).2]
    by_cases same : id = other
    · simp [lifecycle, same]
    · simp [lifecycle, same, Ne.symm same]
  | _ => rfl

theorem run_written (deployed : Deployed d w₀) (run : Run d outside w₀ es w) (id : Bytes32) :
    (w.store.volumes id).written = (latest (admitted id) (told w)).getD Volume.zero.written := by
  apply run_register deployed (fun s => (s.volumes id).written) (admitted id) ?_ run
  intro sender s timestamp e s' _ step rebuilt
  cases step with
  | @admitted _ a time nextNonce announced owner auth named unused =>
    obtain ⟨nonce, entered⟩ := rebuild_admission announced s timestamp
    rw [rebuilt, entered, Storage.enter_volumes, admitted, announced]
    by_cases same : id = a.volumeId
    · simp [same, Admission.record, Volume.written]
    · simp [same, Ne.symm same]
  | retired active retired named => exact ((Storage.retire_frame retired).2.2.1 id).1
  | _ => rfl

/-- Every answer of the views is in the log: a record in the event that admitted the
volume, its status in the last event that changed it, the payer and whether the account
is on in the last account events of the owner, the nonce in their number of volumes. -/
theorem views_from_log (deployed : Deployed d w₀) (run : Run d outside w₀ es w) :
    getVolume w.store = viewOf (told w) ∧ getAccount w.store = accountOf (told w) := by
  constructor
  · funext id
    have record := run_written deployed run id
    have accounts := run_accounts deployed run (w.store.volumes id).owner
    unfold viewOf
    rw [← record, ← run_status deployed run id]
    dsimp only [Volume.written]
    rw [← accounts.1, ← accounts.2]
    rfl
  · funext o
    have accounts := run_accounts deployed run o
    unfold accountOf
    rw [← accounts.1, ← accounts.2, ← run_nonce deployed run o]
    rfl

theorem views_from_log_sample :
    getVolume Sample.final.store Sample.second = viewOf (told Sample.final) Sample.second ∧
    getAccount Sample.final.store Sample.owner = ⟨Sample.payer, true, 2⟩ := by
  have views := views_from_log Sample.deployed (Sample.run anything_refl)
  refine ⟨congrFun views.1 _, ?_⟩
  rw [views.2]
  decide

end SwarmVolumes.Guarantees.EventSourcing
