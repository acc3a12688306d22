import SwarmVolumes.Source.Indexer.Decode
import SwarmVolumes.Source.Indexer.Project
import SwarmVolumes.Source.Registry.Logs
import Mathlib.Data.FinEnum

/-!
# Events tell storage

The indexer sees events only. Folded in chain order they say which volumes are
active (`Mirrors`) and which accounts are authorized (`authorize_step`), and the
loops of the projector, fed the decoded rows of a chain, compute these folds.
-/
namespace SwarmVolumes.Guarantees.Replay
open Library Source Source.Indexer

/-! ## Storage, as the events tell it -/

/-- The active volumes and their depths after an event. -/
def follow (active : Dict Bytes32 UInt8) : Event → Dict Bytes32 UInt8
  | .volumeCreated id _ _ _ depth _ | .volumeImported id _ _ _ depth _ _ => active.set id depth
  | .volumeRetired id _ => active.pop id
  | _ => active

/-- The active volumes of storage. -/
def activeVolumes (s : Storage) : Finset Bytes32 :=
  Finset.univ.filter fun id => (s.volumes id).status = .active

/-- `active` lists the active volumes of storage with their depths. -/
structure Mirrors (active : Dict Bytes32 UInt8) (s : Storage) : Prop where
  distinct : active.keys.Nodup
  listed : ∀ id depth, (id, depth) ∈ active ↔
    (s.volumes id).status = .active ∧ (s.volumes id).depth = depth

theorem follow_admission {active : Dict Bytes32 UInt8} {e : Event} {a : Admission}
    (announced : e.admission = some a) : follow active e = active.set a.volumeId a.depth := by
  cases e with
  | volumeCreated => cases announced; rfl
  | volumeImported => cases announced; rfl
  | _ => cases announced

theorem Mirrors.mem_keys {active : Dict Bytes32 UInt8} {s : Storage} (mirrors : Mirrors active s)
    {id : Bytes32} : id ∈ active.keys ↔ (s.volumes id).status = .active := by
  rw [Dict.keys, List.mem_map]
  constructor
  · rintro ⟨⟨id, depth⟩, member, rfl⟩
    exact ((mirrors.listed id depth).mp member).1
  · intro isActive
    exact ⟨(id, (s.volumes id).depth), (mirrors.listed _ _).mpr ⟨isActive, rfl⟩, rfl⟩

theorem Mirrors.enter {active : Dict Bytes32 UInt8} {s : Storage} (mirrors : Mirrors active s)
    (a : Admission) (unused : (s.volumes a.volumeId).status = .none) (timestamp : Nat) :
    Mirrors (active.set a.volumeId a.depth) (s.enter a timestamp) := by
  have fresh : a.volumeId ∉ active.keys := by
    rw [mirrors.mem_keys, unused]
    nofun
  rw [Dict.set_of_fresh fresh]
  refine ⟨?_, fun id depth => ?_⟩
  · rw [Dict.keys, List.map_append, List.map_singleton, List.nodup_append]
    refine ⟨mirrors.distinct, List.nodup_singleton _, fun x old y new same => fresh ?_⟩
    obtain rfl : x = a.volumeId := same.trans (List.mem_singleton.mp new)
    exact old
  · rw [List.mem_append, List.mem_singleton, mirrors.listed, Storage.enter_volumes]
    by_cases here : id = a.volumeId
    · subst here
      simp [unused, Admission.record, eq_comm]
    · simp [here]

theorem Mirrors.retire {active : Dict Bytes32 UInt8} {s s' : Storage} (mirrors : Mirrors active s)
    {id : Bytes32} (retired : s.retire id = .ok s') : Mirrors (active.pop id) s' := by
  obtain ⟨_, _, records, _⟩ := Storage.retire_frame retired
  refine ⟨mirrors.distinct.sublist (List.filter_sublist.map _), fun other depth => ?_⟩
  obtain ⟨written, status⟩ := records other
  have same : (s'.volumes other).depth = (s.volumes other).depth := congrArg (·.2.2.2.2.2) written
  rw [Dict.pop, List.mem_filter, mirrors.listed, status, same]
  by_cases here : other = id
  · simp [here]
  · simp [here]

theorem Mirrors.step {T P : Type} {d : Source.Deployment T P} {active : Dict Bytes32 UInt8}
    {sender : Address} {s s' : Storage} {e : Event} (mirrors : Mirrors active s)
    (step : StoreStep d sender s e s') : Mirrors (follow active e) s' := by
  cases step with
  | designated payer => exact ⟨mirrors.distinct, mirrors.listed⟩
  | activated owner named => exact ⟨mirrors.distinct, mirrors.listed⟩
  | revoked owner allowed => exact ⟨mirrors.distinct, mirrors.listed⟩
  | @admitted _ a timestamp nextNonce announced owner auth named unused =>
    rw [follow_admission announced]
    exact Mirrors.enter (s := { s with nextNonce }) ⟨mirrors.distinct, mirrors.listed⟩ a unused _
  | retired active retired named => exact mirrors.retire retired
  | toppedUp active => exact mirrors
  | skipped guarded => exact mirrors

/-- The authorized owners after an event. -/
def authorize (owners : Finset Address) : Event → Finset Address
  | .accountActivated owner _ => insert owner owners
  | .accountRevoked owner _ _ => owners.erase owner
  | _ => owners

/-- The owners whose account is active. -/
def authorizedOwners (s : Storage) : Finset Address :=
  Finset.univ.filter fun owner => (s.accounts owner).active = true

theorem authorize_step {T P : Type} {d : Source.Deployment T P} {sender : Address}
    {s s' : Storage} {e : Event} (step : StoreStep d sender s e s') :
    authorizedOwners s' = authorize (authorizedOwners s) e := by
  ext o
  cases step with
  | designated payer => rfl
  | activated owner named =>
    simp only [authorizedOwners, authorize, Finset.mem_filter, Finset.mem_univ, true_and,
      Finset.mem_insert, Storage.setAccount_accounts]
    by_cases here : o = owner
    · simp [here]
    · simp [here]
  | revoked owner allowed =>
    simp only [authorizedOwners, authorize, Finset.mem_filter, Finset.mem_univ, true_and,
      Finset.mem_erase, Storage.setAccount_accounts]
    by_cases here : o = owner
    · simp [here]
    · simp [here]
  | @admitted _ a timestamp nextNonce announced owner auth named unused =>
    have quiet : authorize (authorizedOwners s) e = authorizedOwners s := by
      cases e with
      | volumeCreated => rfl
      | volumeImported => rfl
      | _ => cases announced
    rw [quiet]
    simp only [authorizedOwners, Finset.mem_filter, Finset.mem_univ, true_and,
      Storage.enter_accounts]
    split
    · rfl
    · rfl
  | retired active retired named =>
    simp only [authorizedOwners, authorize, (Storage.retire_frame retired).1]
  | toppedUp active => rfl
  | skipped guarded => rfl

/-- Events of a call have named enum values. -/
theorem step_named {T P : Type} {d : Source.Deployment T P} {sender : Address} {s s' : Storage}
    {e : Event} (step : StoreStep d sender s e s') : Named e := by
  cases step with
  | @admitted e a _ _ announced =>
    cases e with
    | volumeCreated => trivial
    | volumeImported => trivial
    | _ => cases announced
  | retired active retired named => exact named
  | skipped guarded => exact guarded.named
  | _ => trivial

variable {T P : Type} {d : Source.Deployment T P} {outside : World T P → World T P → Prop}
  {w₀ w : World T P} {es : List (Entry T P)}

/-- After every run the events tell storage, and all of them decode. -/
theorem run_told (deployed : Deployed d w₀) (run : Run d outside w₀ es w) :
    Mirrors (w.events.foldl follow []) w.store ∧
    authorizedOwners w.store = w.events.foldl authorize ∅ ∧ ∀ e ∈ w.events, Named e := by
  refine run.invariant_events deployed (fun events s => Mirrors (events.foldl follow []) s ∧
    authorizedOwners s = events.foldl authorize ∅ ∧ ∀ e ∈ events, Named e) ?_ ?_
  · refine ⟨⟨.nil, fun id depth => ?_⟩, ?_, by simp⟩
    · simp [Storage.empty, Volume.zero]
    · simp [authorizedOwners, Storage.empty, Account.zero]
  · rintro events sender s e s' _ step ⟨mirrors, authorized, named⟩
    refine ⟨?_, ?_, fun x member => ?_⟩
    · rw [List.foldl_append]
      exact mirrors.step step
    · rw [List.foldl_append, authorize_step step, authorized]
      rfl
    · rcases List.mem_append.mp member with early | last
      · exact named x early
      · rw [List.mem_singleton.mp last]
        exact step_named step

theorem mem_follow {events : List Event} {active : Dict Bytes32 UInt8} {id : Bytes32} {depth : UInt8}
    (listed : (id, depth) ∈ events.foldl follow active) :
    (id, depth) ∈ active ∨ ∃ e ∈ events, ∃ a, e.admission = some a ∧ a.depth = depth := by
  induction events generalizing active with
  | nil => exact .inl listed
  | cons e events ih =>
    rcases ih listed with here | ⟨e', member, announced⟩
    · cases told : e.admission with
      | some a =>
        rw [follow_admission told] at here
        rcases Dict.mem_set here with old | new
        · exact .inl old
        · exact .inr ⟨e, List.mem_cons_self .., a, told, (congrArg Prod.snd new).symm⟩
      | none =>
        cases e with
        | volumeCreated | volumeImported => cases told
        | volumeRetired id reason => exact .inl (List.mem_of_mem_filter here)
        | _ => exact .inl here
    · exact .inr ⟨e', List.mem_cons_of_mem _ member, announced⟩

/-- The depth of every volume that is ever active was announced. -/
theorem active_announced (deployed : Deployed d w₀) (run : Run d outside w₀ es w) :
    ∀ e ∈ es, ∀ id, (e.after.store.volumes id).status = .active →
      ∃ told ∈ w.events, ∃ a, told.admission = some a ∧
        a.depth = (e.after.store.volumes id).depth := by
  intro e member id isActive
  obtain ⟨pre, post, rfl⟩ := List.append_of_mem member
  obtain ⟨a, b, before, step, _⟩ := run.at_label
  have here : Run d outside w₀ (pre ++ [e]) b := .snoc before step
  rw [← step.left] at isActive ⊢
  have mirrors := (run_told deployed here).1
  rcases mem_follow ((mirrors.listed id _).mpr ⟨isActive, rfl⟩) with nothing | ⟨told, member, announced⟩
  · cases nothing
  · refine ⟨told, ?_, announced⟩
    rw [World.events, (run_logs deployed here).1] at member
    rw [World.events, (run_logs deployed run).1, List.flatMap_append, List.flatMap_cons,
      ← List.append_assoc, List.filterMap_append]
    refine List.mem_append_left _ ?_
    rwa [List.flatMap_append, List.flatMap_singleton] at member

/-! ## Storage, as the loops compute it -/

/-- A dictionary of active volumes as the projector holds it. -/
def spell (active : Dict Bytes32 UInt8) : Dict Value Value :=
  active.map fun (id, depth) => (hexValue id, natValue depth.toNat)

theorem hexValue_injective {bits : Nat} (whole : 4 ∣ bits) :
    Function.Injective (hexValue : BitVec bits → Value) :=
  fun _ _ same => Hex.render_injective whole (Value.str.inj same)

theorem spell_set (active : Dict Bytes32 UInt8) (id : Bytes32) (depth : UInt8) :
    (spell active).set (hexValue id) (natValue depth.toNat) = spell (active.set id depth) := by
  unfold Dict.set
  induction active with
  | nil => rfl
  | cons entry active ih =>
    have same : hexValue entry.1 = hexValue id ↔ entry.1 = id :=
      (hexValue_injective (by decide)).eq_iff
    by_cases here : entry.1 = id
    · simp [spell, Dict.update, here]
    · unfold spell at ih ⊢
      simp [Dict.update, here, same, ih]

theorem spell_pop (active : Dict Bytes32 UInt8) (id : Bytes32) :
    (spell active).pop (hexValue id) = spell (active.pop id) := by
  unfold spell Dict.pop
  rw [List.filter_map]
  refine congrArg _ (List.filter_congr fun entry _ => ?_)
  have same : hexValue entry.1 = hexValue id ↔ entry.1 = id :=
    (hexValue_injective (by decide)).eq_iff
  simp [same]

variable {deploymentId : DeploymentId} {logs : List RawLog}

/-- The loop of `_active_set_at` follows the events. -/
theorem activeLoop (named : ∀ log ∈ logs, ∀ e, log.record.event? = some e → Named e) :
    ((logs.filterMap (rowOf d deploymentId)).filter fun row =>
      row.eventName ∈ admitEvents ++ ["VolumeRetired"]).foldlM activeStep [] =
    .ok (spell (((logs.map RawLog.record).filterMap Record.event?).foldl follow [])) := by
  refine foldlM_rows activeStep spell Record.event? follow _ (fun active log named => ?_) named []
  cases same : log.record.log with
  | registry e =>
    unfold rowOf acquired decodeLog mapLog Record.event?
    unfold Record.event? at named
    rw [same] at named ⊢
    cases e with
    | volumeCreated id owner batchId chunkSigner depth ttlExpiry =>
      exact ⟨_, rfl, congrArg Except.ok (spell_set active id depth)⟩
    | volumeImported id owner batchId chunkSigner depth ttlExpiry normalisedBalance =>
      exact ⟨_, rfl, congrArg Except.ok (spell_set active id depth)⟩
    | volumeRetired id reason =>
      cases reason with
      | none => exact absurd rfl (named _ rfl)
      | _ => exact ⟨_, rfl, congrArg Except.ok (spell_pop active id)⟩
    | topupSkipped id reason =>
      cases reason with
      | none => exact absurd rfl (named _ rfl)
      | _ => rintro x ⟨⟩; rfl
    | _ => rintro x ⟨⟩; rfl
  | callee callee =>
    rw [rowOf_callee (by decide) same]
    unfold Record.event?
    rw [same]
    nofun

/-- The loop of `_authorized_at` follows the events. -/
theorem accountsLoop (named : ∀ log ∈ logs, ∀ e, log.record.event? = some e → Named e) :
    ((logs.filterMap (rowOf d deploymentId)).filter fun row =>
      row.eventName ∈ accountEvents).foldlM authorizedStep ∅ =
    .ok ((((logs.map RawLog.record).filterMap Record.event?).foldl authorize ∅).image hexValue) := by
  refine foldlM_rows authorizedStep (Finset.image hexValue) Record.event? authorize _
    (fun owners log named => ?_) named ∅
  cases same : log.record.log with
  | registry e =>
    unfold rowOf acquired decodeLog mapLog Record.event?
    unfold Record.event? at named
    rw [same] at named ⊢
    cases e with
    | accountActivated owner payer =>
      exact ⟨_, rfl, congrArg Except.ok (Finset.image_insert ..).symm⟩
    | accountRevoked owner payer revoker =>
      exact ⟨_, rfl, congrArg Except.ok
        (Finset.image_erase (hexValue_injective (by decide)) owners owner).symm⟩
    | volumeRetired id reason =>
      cases reason with
      | none => exact absurd rfl (named _ rfl)
      | _ => rintro x ⟨⟩; rfl
    | topupSkipped id reason =>
      cases reason with
      | none => exact absurd rfl (named _ rfl)
      | _ => rintro x ⟨⟩; rfl
    | _ => rintro x ⟨⟩; rfl
  | callee callee =>
    rw [rowOf_callee (by decide) same]
    unfold Record.event?
    rw [same]
    nofun

/-- A record's time and value, when it is a transfer from the registry to PostageStamp. -/
def feeOf (d : Source.Deployment T P) (r : Record) : Option (Nat × Nat) :=
  (r.transfer?.bind d.toPostage).map fun value => (r.time, value)

/-- What a fee does to the tally. -/
def tallyStep (asOfTs : Nat) (tally : FeeTally) (fee : Nat × Nat) : FeeTally :=
  if asOfTs < fee.1 then tally
  else ⟨tally.perDay.update (fee.1 / oneDay) fun total => total.getD 0 + fee.2,
    some (match tally.firstDay with
      | none => fee.1 / oneDay
      | some first => min first (fee.1 / oneDay))⟩

/-- The loop of `fee_volume_daily` tallies the fees. -/
theorem feeLoop (asOfTs : Nat) (named : ∀ log ∈ logs, ∀ e, log.record.event? = some e → Named e) :
    ((logs.filterMap (rowOf d deploymentId)).filter fun row =>
      row.eventName ∈ ["Transfer"]).foldlM (feeStep asOfTs) ⟨[], none⟩ =
    .ok (((logs.map RawLog.record).filterMap (feeOf d)).foldl (tallyStep asOfTs) ⟨[], none⟩) := by
  refine foldlM_rows (feeStep asOfTs) id (feeOf d) (tallyStep asOfTs) _
    (fun tally log named => ?_) named _
  cases same : log.record.log with
  | registry e =>
    unfold rowOf acquired decodeLog mapLog feeOf Record.transfer?
    unfold Record.event? at named
    rw [same] at named ⊢
    cases e with
    | volumeRetired id reason =>
      cases reason with
      | none => exact absurd rfl (named _ rfl)
      | _ => nofun
    | topupSkipped id reason =>
      cases reason with
      | none => exact absurd rfl (named _ rfl)
      | _ => nofun
    | _ => nofun
  | callee callee =>
    unfold rowOf acquired decodeLog mapLog feeOf Record.transfer?
    rw [same]
    cases callee with
    | transfer src dst value =>
      by_cases forwarded : src = d.address ∧ dst = d.postage
      · obtain ⟨rfl, rfl⟩ := forwarded
        rw [if_pos (by simp)]
        refine ⟨(log.record.time, value), by simp [CalleeLog.transfer?, Deployment.toPostage], ?_⟩
        unfold feeStep tallyStep Record.time id
        by_cases late : asOfTs < log.record.block.timestamp
        · simp only [if_pos late]
        · simp only [if_neg late]
          rfl
      · simp [forwarded, CalleeLog.transfer?, Deployment.toPostage]
    | other emitter => nofun

end SwarmVolumes.Guarantees.Replay
