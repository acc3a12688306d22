import SwarmVolumes.Library.IndexedList
import SwarmVolumes.Source.Registry.Reverts
import SwarmVolumes.Source.Registry.Sample
import Mathlib.Data.Set.Card

/-!
# The active set

`_activeVolumeIds` with the `activeIndex` of its records is an indexed list of
exactly the Active volumes, in every state a registry reaches and in every
state inside a call from which `_retire` can start. Its array accesses are then
in bounds.
-/
namespace SwarmVolumes.Guarantees.ActiveSet
open Library Source

variable {T P : Type} {d : Deployment T P}

/-- Where a record says its ID is listed. -/
def position (s : Storage) (id : Bytes32) : Nat := (s.volumes id).activeIndex.toNat

/-- The representation invariant. -/
structure Represented (s : Storage) : Prop where
  indexed : Indexed s.activeVolumeIds (position s)
  listed : ∀ id, id ∈ s.activeVolumeIds ↔ (s.volumes id).status = .active

def active (s : Storage) : Set Bytes32 := {id | (s.volumes id).status = .active}

/-- Fewer than 2^32 volumes are Active. -/
def Few (s : Storage) : Prop := (active s).ncard < 2 ^ 32

theorem Represented.empty : Represented .empty :=
  ⟨Indexed.nil, fun id => by simp [Storage.empty, Volume.zero]⟩

theorem Represented.count {s : Storage} (rep : Represented s) :
    getActiveVolumeCount s = (active s).ncard := by
  have same : active s = ↑s.activeVolumeIds.toFinset := by
    ext id
    simp [active, rep.listed]
  rw [same, Set.ncard_coe_finset, List.toFinset_card_of_nodup rep.indexed.nodup,
    getActiveVolumeCount]

/-- Nothing but statuses, positions and the list matters. -/
theorem Represented.congr {s s' : Storage} (rep : Represented s) (volumes : s'.volumes = s.volumes)
    (ids : s'.activeVolumeIds = s.activeVolumeIds) : Represented s' := by
  obtain ⟨indexed, listed⟩ := rep
  refine ⟨?_, fun id => ?_⟩
  · rw [ids]
    exact indexed.congr fun a _ => by rw [position, position, volumes]
  · rw [ids, volumes]
    exact listed id

/-- Appending a new ID stores its position exactly while it fits 32 bits. -/
theorem Represented.enter {s : Storage} (rep : Represented s) (few : Few s) (a : Admission)
    (timestamp : Nat) (unused : (s.volumes a.volumeId).status = .none) :
    Represented (s.enter a timestamp) := by
  have unlisted : a.volumeId ∉ s.activeVolumeIds := by
    rw [rep.listed, unused]
    simp
  have bound : s.activeVolumeIds.length < 2 ^ 32 := by
    rw [Few, ← rep.count] at few
    exact few
  refine ⟨?_, fun id => ?_⟩
  · refine rep.indexed.push ?_ fun b member => ?_
    · rw [position, Storage.enter_volumes, if_pos rfl]
      exact UInt32.toNat_ofNat_of_lt bound
    · have different : b ≠ a.volumeId := fun same => unlisted (same ▸ member)
      rw [position, Storage.enter_volumes, if_neg different, position]
  · rw [Storage.enter_ids, List.mem_append, List.mem_singleton, Storage.enter_volumes, rep.listed]
    split
    · rename_i same
      simp [same, Admission.record]
    · rename_i different
      simp [different]

/-- The move into the freed place passes its bounds checks; with the last place
free there is nothing to move. -/
theorem moveLast_computed {s : Storage} {idx : UInt32} {lastId : Bytes32}
    (bound : idx.toNat < s.activeVolumeIds.length)
    (atEnd : s.activeVolumeIds[s.activeVolumeIds.length - 1]? = some lastId)
    (lastPlace : position s lastId = s.activeVolumeIds.length - 1) :
    ∃ s', s.moveLast idx (s.activeVolumeIds.length - 1) = .ok s' ∧ s'.activeVolumeIds ≠ [] ∧
      s'.activeVolumeIds.dropLast = swapPop s.activeVolumeIds idx.toNat lastId ∧
      ∀ x, (s'.volumes x).activeIndex = if x = lastId then idx else (s.volumes x).activeIndex := by
  have nonempty : s.activeVolumeIds ≠ [] := List.ne_nil_of_length_pos (by omega)
  unfold Storage.moveLast
  by_cases final : idx.toNat = s.activeVolumeIds.length - 1
  · refine ⟨s, if_pos final, nonempty, ?_, fun x => ?_⟩
    · obtain ⟨_, same⟩ := List.getElem?_eq_some_iff.mp atEnd
      rw [swapPop, final, ← same, List.set_getElem_self]
    · split
      · rename_i same
        subst same
        exact UInt32.toNat_inj.mp (lastPlace.trans final.symm)
      · rfl
  · rw [if_neg final, atEnd, orRevert_some]
    refine ⟨_, if_neg (Nat.not_le.mpr bound), ?_, rfl, fun x => ?_⟩
    · exact List.ne_nil_of_length_pos (by simp; omega)
    · rw [Storage.setVolume_volumes]
      split
      · rfl
      · rfl

/-- `_retire` of a listed ID, computed: the list loses the place `activeIndex`
names and the last ID takes it over. -/
theorem retire_computed {s : Storage} {id lastId : Bytes32}
    (bound : position s id < s.activeVolumeIds.length)
    (atEnd : s.activeVolumeIds[s.activeVolumeIds.length - 1]? = some lastId)
    (lastPlace : position s lastId = s.activeVolumeIds.length - 1) :
    ∃ s', s.retire id = .ok s' ∧
      s'.activeVolumeIds = swapPop s.activeVolumeIds (position s id) lastId ∧
      ∀ x, x ≠ id → (s'.volumes x).activeIndex =
        if x = lastId then (s.volumes id).activeIndex else (s.volumes x).activeIndex := by
  let marked := s.setVolume id ((s.volumes id).setStatus .retired)
  have index : ∀ x, (marked.volumes x).activeIndex = (s.volumes x).activeIndex := by
    intro x
    rw [Storage.setVolume_volumes]
    split
    · rename_i same
      rw [same, Volume.setStatus_index]
    · rfl
  have last : Word.sub? marked.activeVolumeIds.length 1 = some (marked.activeVolumeIds.length - 1) :=
    Word.sub?_eq_some.mpr ⟨Nat.one_le_of_lt bound, rfl⟩
  obtain ⟨moved, moves, nonempty, ids, indices⟩ :=
    moveLast_computed (s := marked) bound atEnd
      ((congrArg UInt32.toNat (index lastId)).trans lastPlace)
  refine ⟨({ moved with activeVolumeIds := moved.activeVolumeIds.dropLast }).setVolume id
    ((moved.volumes id).setIndex 0), ?_, ids, fun x different => ?_⟩
  · have popped : moved.popActive =
        .ok { moved with activeVolumeIds := moved.activeVolumeIds.dropLast } := if_neg nonempty
    unfold Storage.retire
    change (orRevert .overflow (Word.sub? marked.activeVolumeIds.length 1) >>= _) = _
    rw [last, orRevert_some, ok_bind]
    change (marked.moveLast (marked.volumes id).activeIndex _ >>= _) = _
    rw [index id, moves, ok_bind, popped, ok_bind]
  · rw [Storage.setVolume_other different]
    exact (indices x).trans (by rw [index x])

/-- What a `_retire` that did not revert made of the list. -/
theorem retire_ids {s s' : Storage} {id : Bytes32} (ok : s.retire id = .ok s') :
    position s id < s.activeVolumeIds.length ∧
      ∃ lastId, s.activeVolumeIds[s.activeVolumeIds.length - 1]? = some lastId ∧
        s'.activeVolumeIds = swapPop s.activeVolumeIds (position s id) lastId := by
  unfold Storage.retire at ok
  obtain ⟨last, read, ok⟩ := bind_success ok
  obtain ⟨t, moved, ok⟩ := bind_success ok
  obtain ⟨p, popped, ok⟩ := bind_success ok
  obtain ⟨nonempty, rfl⟩ := Word.sub?_eq_some.mp (orRevert_success read)
  unfold Storage.popActive at popped
  split at popped
  · cases popped
  cases popped
  cases ok
  rw [Storage.setVolume_same, Volume.setStatus_index] at moved
  simp only [Storage.setVolume_ids] at nonempty moved ⊢
  unfold Storage.moveLast at moved
  split at moved
  · rename_i final
    cases moved
    have inside : s.activeVolumeIds.length - 1 < s.activeVolumeIds.length := by omega
    refine ⟨?_, _, List.getElem?_eq_getElem inside, ?_⟩
    · rwa [position, final]
    · rw [swapPop, position, final, List.set_getElem_self]
      rfl
  · obtain ⟨lastId, found, moved⟩ := bind_success moved
    split at moved
    · cases moved
    · rename_i bound
      cases moved
      exact ⟨Nat.not_le.mp bound, lastId, orRevert_success found, rfl⟩

/-- Swap-and-pop never faults on an Active volume, and frees its place. -/
theorem Represented.retire {s : Storage} (rep : Represented s) {id : Bytes32}
    (isActive : (s.volumes id).status = .active) :
    ∃ s', s.retire id = .ok s' ∧ Represented s' := by
  have member := (rep.listed id).mpr isActive
  have here := rep.indexed.get member
  have bound := rep.indexed.lt_length member
  obtain ⟨lastId, atEnd⟩ : ∃ lastId, s.activeVolumeIds[s.activeVolumeIds.length - 1]? = some lastId :=
    ⟨_, List.getElem?_eq_getElem (by omega)⟩
  obtain ⟨s', ok, ids, index⟩ :=
    retire_computed bound atEnd (rep.indexed _ _ atEnd)
  obtain ⟨_, _, records, _⟩ := Storage.retire_frame ok
  have left : ∀ x, x ∈ s'.activeVolumeIds ↔ x ∈ s.activeVolumeIds ∧ x ≠ id := by
    intro x
    rw [ids]
    exact mem_swapPop rep.indexed here atEnd
  refine ⟨s', ok, ?_, fun x => ?_⟩
  · have moved : Indexed s'.activeVolumeIds
        (fun x => if x = lastId then position s id else position s x) := by
      rw [ids]
      exact rep.indexed.swapPop atEnd (if_pos rfl) fun b _ different => if_neg different
    refine moved.congr fun x listed => ?_
    rw [position, index x ((left x).mp listed).2]
    split
    · rfl
    · rfl
  · rw [left, rep.listed, (records x).2]
    split
    · rename_i same
      simp [same]
    · rename_i different
      simp [different]

/-- One event keeps the representation; only an admission needs room. -/
theorem Represented.step {s s' : Storage} {sender : Address} {e : Event} (rep : Represented s)
    (few : e.admission ≠ none → Few s) (step : StoreStep d sender s e s') : Represented s' := by
  cases step with
  | designated payer => exact rep.congr rfl rfl
  | activated owner named => exact rep.congr rfl rfl
  | revoked owner allowed => exact rep.congr rfl rfl
  | admitted timestamp nextNonce announced owner auth named unused =>
    have room : Few s := few (by rw [announced]; exact Option.some_ne_none _)
    exact Represented.enter (s := { s with nextNonce }) ⟨rep.indexed, rep.listed⟩ room _ _ unused
  | retired isActive retired =>
    obtain ⟨after, ok, kept⟩ := rep.retire isActive
    obtain rfl := Except.ok.inj (ok.symm.trans retired)
    exact kept
  | toppedUp isActive => exact rep
  | skipped guarded => exact rep

theorem Represented.trace {s s' : Storage} {sender : Address} {events : List Event}
    (rep : Represented s) (admits : ∀ e ∈ events, e.admission = none)
    (trace : Trace (StoreStep d sender) s events s') : Represented s' := by
  refine (trace.restrict admits).invariant Represented rep fun t e t' taken held => ?_
  exact held.step (fun admission => absurd taken.2 admission) taken.1

/-- A call admits at most one volume, with its first event. -/
theorem admits_first {sender : Address} {call : Call} {value : Option Bytes32}
    {events : List Event} (emits : Emits sender call value events) :
    ∀ e ∈ events.tail, e.admission = none := by
  cases creating : call.creating with
  | true =>
    obtain ⟨e, rest, a, rfl, _, _, _, silent⟩ := emits.creating creating
    exact silent
  | false => exact fun e member => (emits.other creating).2 e (List.mem_of_mem_tail member)

/-- A call keeps the representation when there was room before it. -/
theorem Represented.call {s s' : Storage} {sender : Address} {events : List Event}
    (rep : Represented s) (few : Few s) (first : ∀ e ∈ events.tail, e.admission = none)
    (trace : Trace (StoreStep d sender) s events s') : Represented s' := by
  cases events with
  | nil => rwa [trace.nil_eq]
  | cons e events =>
    obtain ⟨mid, step, rest⟩ := trace.uncons
    exact (rep.step (fun _ => few) step).trace first rest

theorem Represented.triggerOne {w w' : World T P} {msg : Msg} {id : Bytes32}
    {outcome : TriggerOutcome} (rep : Represented w.store)
    (ok : Source.triggerOne d msg w id = .ok (outcome, w')) : Represented w'.store := by
  obtain ⟨events, trace, about⟩ := triggerOne_effects ok
  exact rep.trace (fun e member => triggerOf_admission (about e member)) (Effect.trace_store trace).1

theorem Represented.worlds {w : World T P} {msg : Msg} {ids : List Bytes32}
    (rep : Represented w.store) : ∀ v ∈ triggerWorlds d msg w ids, Represented v.store := by
  induction ids generalizing w with
  | nil => simp [triggerWorlds]
  | cons id ids ih =>
    intro v member
    rw [triggerWorlds, List.mem_cons] at member
    rcases member with rfl | later
    · exact rep
    · split at later
      · rename_i outcome after ok
        exact ih (rep.triggerOne ok) v later
      · simp at later

/-- Every world in which a call may reach `_retire` is represented. -/
theorem Represented.callWorlds {w : World T P} {msg : Msg} {call : Call}
    (rep : Represented w.store) (few : Few w.store) :
    ∀ v ∈ call.worlds d msg w, Represented v.store := by
  intro v member
  cases call with
  | trigger id => exact rep.worlds v member
  | triggerMany ids => exact rep.worlds v member
  | importVolume batchId ttlExpiry =>
    rw [Call.worlds] at member
    split at member
    · rename_i id registered ok
      have step := (registerBatch_effect ok).store.1
      exact (rep.step (fun _ => few) step).worlds v member
    · simp at member
  | deleteVolume id =>
    rw [List.mem_singleton.mp member]
    exact rep
  | reap id =>
    rw [List.mem_singleton.mp member]
    exact rep
  | _ => simp [Call.worlds] at member

variable {outside : World T P → World T P → Prop} {w₀ w : World T P} {es : List (Entry T P)}

theorem Represented.before {e : Entry T P} {w' : World T P} (rep : Represented w.store)
    (step : CallStep d outside w e w') : Represented e.before.store := by
  rwa [step.idle.store]

theorem Represented.after {e : Entry T P} {w' : World T P} (rep : Represented w.store)
    (step : CallStep d outside w e w') (few : Few e.before.store) : Represented w'.store := by
  obtain ⟨events, trace, _, emits, failed⟩ := step.store
  by_cases succeeded : e.Succeeded
  · rw [← step.idle.store] at trace
    exact (rep.before step).call few (admits_first (emits succeeded)) trace
  · rw [(failed succeeded).2]
    exact rep.before step

/-- The representation holds after every run and inside each of its calls. -/
theorem run_represented (deployed : Deployed d w₀) (run : Run d outside w₀ es w)
    (few : ∀ e ∈ es, Few e.before.store) :
    Represented w.store ∧
      ∀ e ∈ es, ∀ v ∈ e.call.worlds d e.msg e.before, Represented v.store := by
  refine (run.restrict few).history (fun es w => Represented w.store ∧
    ∀ e ∈ es, ∀ v ∈ e.call.worlds d e.msg e.before, Represented v.store) ?_ ?_
  · rw [deployed.store]
    exact ⟨.empty, by simp⟩
  · rintro es w e w' _ ⟨step, room⟩ ⟨rep, inside⟩
    refine ⟨rep.after step room, fun other member => ?_⟩
    rcases List.mem_append.mp member with early | last
    · exact inside other early
    · rw [List.mem_singleton.mp last]
      exact (rep.before step).callWorlds room

/-- The bound may be read off the list itself. -/
theorem few_of_count (deployed : Deployed d w₀) (run : Run d outside w₀ es w)
    (short : ∀ e ∈ es, getActiveVolumeCount e.before.store < 2 ^ 32) :
    ∀ e ∈ es, Few e.before.store := by
  refine ((run.restrict short).history (fun es w => Represented w.store ∧
    ∀ e ∈ es, Few e.before.store) ?_ ?_).2
  · rw [deployed.store]
    exact ⟨.empty, by simp⟩
  · rintro es w e w' _ ⟨step, room⟩ ⟨rep, earlier⟩
    have few : Few e.before.store := by
      rwa [Few, ← (rep.before step).count]
    refine ⟨rep.after step few, fun other member => ?_⟩
    rcases List.mem_append.mp member with early | last
    · exact earlier other early
    · rwa [List.mem_singleton.mp last]

/-! ## The active list -/

/-- The panics of array accesses: an index out of bounds, `pop` on nothing. -/
def Fault (r : Revert) : Prop := r = .outOfBounds ∨ r = .emptyPop

/-- No call from a represented state with room ends in an array fault. -/
theorem execute_sound {w : World T P} {msg : Msg} (call : Call) (rep : Represented w.store)
    (few : Few w.store) : Avoids Fault (execute d msg w call) := by
  refine execute_avoids (fun r fault => fault.imp_right .inl) (fun v listed id isActive => ?_)
    fun _ fault => absurd fault (by simp [Fault, Revert.outOfBounds, Revert.emptyPop])
  obtain ⟨s', ok, _⟩ := (rep.callWorlds few v listed).retire isActive
  rw [ok]
  exact .ok s'

/-- Whatever the calls and their order, the active list lists exactly the Active
volumes, each at its `activeIndex`: after the run and in every world inside it
from which `_retire` can start. There `_retire` succeeds on every Active volume,
and no call ends in an array fault. -/
theorem active_list_represents_active_volumes (deployed : Deployed d w₀)
    (run : Run d outside w₀ es w) (few : ∀ e ∈ es, Few e.before.store) :
    (∀ v, v = w ∨ (∃ e ∈ es, v ∈ e.call.worlds d e.msg e.before) →
      v.store.activeVolumeIds.Nodup ∧
      (∀ i id, v.store.activeVolumeIds[i]? = some id →
        (v.store.volumes id).status = .active ∧ (v.store.volumes id).activeIndex.toNat = i) ∧
      (∀ id, (v.store.volumes id).status = .active → id ∈ v.store.activeVolumeIds) ∧
      getActiveVolumeCount v.store = {id | (v.store.volumes id).status = .active}.ncard ∧
      (∀ id, (v.store.volumes id).status = .active → ∃ s', v.store.retire id = .ok s')) ∧
    ∀ e ∈ es, e.result ≠ .error .outOfBounds ∧ e.result ≠ .error .emptyPop := by
  refine ⟨fun v place => ?_, fun e member => ?_⟩
  · have rep : Represented v.store := by
      obtain ⟨last, inside⟩ := run_represented deployed run few
      rcases place with rfl | ⟨e, member, listed⟩
      · exact last
      · exact inside e member v listed
    refine ⟨rep.indexed.nodup, fun i id found => ⟨?_, rep.indexed i id found⟩, fun id => ?_,
      rep.count, fun id isActive => ?_⟩
    · exact (rep.listed id).mp (List.mem_of_getElem? found)
    · exact (rep.listed id).mpr
    · obtain ⟨s', ok, _⟩ := rep.retire isActive
      exact ⟨s', ok⟩
  · obtain ⟨pre, post, rfl⟩ := List.append_of_mem member
    obtain ⟨a, b, before, step, _⟩ := run.at_label
    have rep := (run_represented deployed before fun e' early => few e' (by simp [early])).1
    rw [← step.idle.store] at rep
    have sound : Avoids Fault (execute d e.msg e.before e.call) :=
      execute_sound e.call rep (few e member)
    rw [← step.executed] at sound
    exact ⟨fun fault => sound _ fault (.inl rfl), fun fault => sound _ fault (.inr rfl)⟩

theorem active_list_represents_sample :
    getActiveVolumeCount Sample.final.store = {id | (Sample.final.store.volumes id).status = .active}.ncard ∧
    getActiveVolumeCount Sample.final.store = 1 := by
  have run : Run Sample.deployment anything Sample.genesis Sample.entries Sample.final :=
    Sample.run anything_refl
  have represents := active_list_represents_active_volumes Sample.deployed run
    (few_of_count Sample.deployed run (by decide))
  exact ⟨(represents.1 _ (.inl rfl)).2.2.2.1, by decide⟩

end SwarmVolumes.Guarantees.ActiveSet
