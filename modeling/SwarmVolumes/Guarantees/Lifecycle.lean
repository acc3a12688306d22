import SwarmVolumes.Source.Registry.Effects
import SwarmVolumes.Source.Registry.Sample
import Mathlib.Data.List.Forall2

/-!
# Volume lifecycle

The events about one volume ID, over a whole run, spell a word of the state
machine of DESIGN §6.1, and the status of its record says how far the word has
come. A record's other fields are written once, and Retired is final.
-/
namespace SwarmVolumes.Guarantees.Lifecycle
open Library Source

variable {T P : Type} {d : Deployment T P} {sender : Address} {s s' : Storage} {id : Bytes32}

/-- The volume an event is about. -/
def subject : Event → Option Bytes32
  | .volumeCreated id .. | .volumeImported id .. | .volumeRetired id _ | .toppedup id .. |
    .topupSkipped id _ => some id
  | _ => none

def about (id : Bytes32) (events : List Event) : List Event :=
  events.filter fun e => subject e = some id

/-- Skips of an ID no volume has yet. -/
def Unknown (id : Bytes32) (word : List Event) : Prop := ∀ e ∈ word, e = .topupSkipped id .notFound

/-- Top-ups and skips of an Active volume. -/
def Serviced (id : Bytes32) (word : List Event) : Prop :=
  ∀ e ∈ word, (∃ amount newBalance, e = .toppedup id amount newBalance) ∨
    e = .topupSkipped id .noAuth ∨ e = .topupSkipped id .paymentFailed

/-- Skips of a Retired volume. -/
def Refused (id : Bytes32) (word : List Event) : Prop := ∀ e ∈ word, e = .topupSkipped id .notActive

/-- `e` announces the record `v` under `id`. -/
def Admits (id : Bytes32) (v : Volume) (e : Event) : Prop :=
  ∃ a, e.admission = some a ∧ a.volumeId = id ∧
    v.written = (a.owner, a.chunkSigner, a.batchId, v.createdAt, a.ttlExpiry, a.depth)

/-- The events about `id` so far, when its record is `v`. -/
def Word (id : Bytes32) (v : Volume) (word : List Event) : Prop :=
  match v.status with
  | .none => Unknown id word
  | .active => ∃ pre enter mid, word = pre ++ enter :: mid ∧
      Unknown id pre ∧ Admits id v enter ∧ Serviced id mid
  | .retired => ∃ pre enter mid reason post,
      word = pre ++ enter :: mid ++ .volumeRetired id reason :: post ∧
      Unknown id pre ∧ Admits id v enter ∧ Serviced id mid ∧ Refused id post

theorem Admits.congr {v v' : Volume} {e : Event} (same : v'.written = v.written)
    (admits : Admits id v e) : Admits id v' e := by
  obtain ⟨a, announced, named, written⟩ := admits
  refine ⟨a, announced, named, ?_⟩
  have createdAt : v'.createdAt = v.createdAt := congrArg (·.2.2.2.1) same
  rw [same, written, createdAt]

/-- Positions in the active list do not matter to the word. -/
theorem Word.congr {v v' : Volume} {word : List Event} (status : v'.status = v.status)
    (same : v'.written = v.written) (spelled : Word id v word) : Word id v' word := by
  unfold Word at spelled ⊢
  rw [status]
  split at spelled
  · exact spelled
  · obtain ⟨pre, enter, mid, split, unknown, admits, serviced⟩ := spelled
    exact ⟨pre, enter, mid, split, unknown, admits.congr same, serviced⟩
  · obtain ⟨pre, enter, mid, reason, post, split, unknown, admits, serviced, refused⟩ := spelled
    exact ⟨pre, enter, mid, reason, post, split, unknown, admits.congr same, serviced, refused⟩

theorem Word.admitted {v v' : Volume} {word : List Event} {e : Event} (before : v.status = .none)
    (after : v'.status = .active) (admits : Admits id v' e) (spelled : Word id v word) :
    Word id v' (word ++ [e]) := by
  simp only [Word, before] at spelled
  simp only [Word, after]
  exact ⟨word, e, [], rfl, spelled, admits, by simp [Serviced]⟩

theorem Word.serviced {v : Volume} {word : List Event} {e : Event} (active : v.status = .active)
    (last : Serviced id [e]) (spelled : Word id v word) : Word id v (word ++ [e]) := by
  simp only [Word, active] at spelled ⊢
  obtain ⟨pre, enter, mid, rfl, unknown, admits, serviced⟩ := spelled
  refine ⟨pre, enter, mid ++ [e], by simp, unknown, admits, fun x member => ?_⟩
  rcases List.mem_append.mp member with early | late
  · exact serviced x early
  · exact last x late

theorem Word.retired {v v' : Volume} {word : List Event} {reason : RetireReason}
    (before : v.status = .active) (after : v'.status = .retired)
    (same : v'.written = v.written) (spelled : Word id v word) :
    Word id v' (word ++ [.volumeRetired id reason]) := by
  simp only [Word, before] at spelled
  simp only [Word, after]
  obtain ⟨pre, enter, mid, rfl, unknown, admits, serviced⟩ := spelled
  exact ⟨pre, enter, mid, reason, [], rfl, unknown, admits.congr same, serviced, by simp [Refused]⟩

theorem Word.skipped {v : Volume} {word : List Event} {reason : SkipReason}
    (guarded : SkipGuard v.status reason) (spelled : Word id v word) :
    Word id v (word ++ [.topupSkipped id reason]) := by
  generalize same : v.status = status at guarded
  cases guarded with
  | notFound =>
    simp only [Word, same, Unknown, List.mem_append, List.mem_singleton] at spelled ⊢
    rintro e (early | late)
    · exact spelled e early
    · exact late
  | notActive =>
    simp only [Word, same] at spelled ⊢
    obtain ⟨pre, enter, mid, reason, post, rfl, unknown, admits, serviced, refused⟩ := spelled
    refine ⟨pre, enter, mid, reason, post ++ [.topupSkipped id .notActive], by simp, unknown,
      admits, serviced, fun e member => ?_⟩
    rcases List.mem_append.mp member with early | late
    · exact refused e early
    · exact List.mem_singleton.mp late
  | noAuth => exact spelled.serviced same (by simp [Serviced])
  | paymentFailed => exact spelled.serviced same (by simp [Serviced])

theorem about_snoc (events : List Event) (e : Event) :
    about id (events ++ [e]) = about id events ++ if subject e = some id then [e] else [] := by
  unfold about
  rw [List.filter_append]
  split
  · rename_i same
    simp [same]
  · rename_i different
    simp [different]

theorem subject_admission {e : Event} {a : Admission} (announced : e.admission = some a) :
    subject e = some a.volumeId := by
  cases e with
  | volumeCreated => cases announced; rfl
  | volumeImported => cases announced; rfl
  | _ => cases announced

/-- One event spells one more letter of its own volume's word. -/
theorem Word.step {events : List Event} {e : Event}
    (spelled : ∀ id, Word id (s.volumes id) (about id events)) (step : StoreStep d sender s e s') :
    ∀ id, Word id (s'.volumes id) (about id (events ++ [e])) := by
  intro id
  rw [about_snoc]
  cases step with
  | designated payer => simpa [subject] using spelled id
  | activated owner named => simpa [subject] using spelled id
  | revoked owner allowed => simpa [subject] using spelled id
  | @admitted _ a timestamp nextNonce announced owner auth named unused =>
    rw [subject_admission announced, Storage.enter_volumes]
    split
    · rename_i same
      subst same
      have admits : Admits a.volumeId (a.record timestamp
          (UInt32.ofNat s.activeVolumeIds.length)) e := ⟨a, announced, rfl, rfl⟩
      rw [if_pos rfl]
      exact (spelled a.volumeId).admitted unused rfl admits
    · rename_i different
      rw [if_neg (fun same => different (Option.some.inj same).symm), List.append_nil]
      exact spelled id
  | @retired other reason _ active retired =>
    obtain ⟨_, _, records, _⟩ := Storage.retire_frame retired
    obtain ⟨written, status⟩ := records id
    rw [subject]
    split
    · rename_i same
      obtain rfl := Option.some.inj same
      rw [if_pos rfl] at status
      exact (spelled other).retired active status written
    · rename_i different
      rw [if_neg fun same => different (congrArg some same.symm)] at status
      rw [List.append_nil]
      exact (spelled id).congr status written
  | @toppedUp other amount newBalance active =>
    rw [subject]
    split
    · rename_i same
      obtain rfl := Option.some.inj same
      exact (spelled other).serviced active (by simp [Serviced])
    · rw [List.append_nil]
      exact spelled id
  | @skipped other reason guarded =>
    rw [subject]
    split
    · rename_i same
      obtain rfl := Option.some.inj same
      exact (spelled other).skipped guarded
    · rw [List.append_nil]
      exact spelled id

/-! ## What is final -/

/-- What a record under `id` keeps from `v` on, and what a retired one keeps. -/
structure Final (id : Bytes32) (v : Volume) (listed : Prop) (s : Storage) : Prop where
  known : (s.volumes id).status ≠ .none
  written : (s.volumes id).written = v.written
  retired : v.status = .retired → (s.volumes id).status = .retired
  unlisted : v.status = .retired → ¬ listed → id ∉ s.activeVolumeIds

theorem Final.start (known : (s.volumes id).status ≠ .none) :
    Final id (s.volumes id) (id ∈ s.activeVolumeIds) s :=
  ⟨known, rfl, fun retired => retired, fun _ absent => absent⟩

theorem Final.step {v : Volume} {listed : Prop} {e : Event} (final : Final id v listed s)
    (step : StoreStep d sender s e s') : Final id v listed s' := by
  obtain ⟨known, written, stays, unlisted⟩ := final
  cases step with
  | designated payer => exact ⟨known, written, stays, unlisted⟩
  | activated owner named => exact ⟨known, written, stays, unlisted⟩
  | revoked owner allowed => exact ⟨known, written, stays, unlisted⟩
  | @admitted _ a timestamp nextNonce announced owner auth named unused =>
    have different : id ≠ a.volumeId := fun same => known (by rw [same]; exact unused)
    have record : (({ s with nextNonce } : Storage).enter a timestamp).volumes id = s.volumes id := by
      rw [Storage.enter_volumes, if_neg different]
    refine ⟨by rwa [record], by rwa [record], fun isRetired => by rw [record]; exact stays isRetired,
      fun isRetired absent => ?_⟩
    rw [Storage.enter_ids, List.mem_append, List.mem_singleton]
    exact not_or.mpr ⟨unlisted isRetired absent, different⟩
  | @retired other reason _ active retired =>
    obtain ⟨_, _, records, ids⟩ := Storage.retire_frame retired
    obtain ⟨same, status⟩ := records id
    refine ⟨?_, same.trans written, fun isRetired => ?_, fun isRetired absent member =>
      unlisted isRetired absent (ids member)⟩
    · rw [status]
      split
      · simp
      · exact known
    · rw [status, stays isRetired, ite_self]
  | toppedUp active => exact ⟨known, written, stays, unlisted⟩
  | skipped guarded => exact ⟨known, written, stays, unlisted⟩

variable {outside : World T P → World T P → Prop} {w₀ w w' : World T P} {es : List (Entry T P)}

theorem Final.run {v : Volume} {listed : Prop} (final : Final id v listed w.store)
    (run : Run d outside w es w') : Final id v listed w'.store := by
  refine run.invariant_effects (fun w => Final id v listed w.store) final ?_ ?_
  · intro w w' same _ held
    rwa [same.store]
  · intro msg w e w' _ effect held
    exact held.step effect.store.1

/-- The trigger steps skip a Retired volume, and that is all they do. -/
theorem triggerOne_retired {msg : Msg} {outcome : TriggerOutcome}
    (retired : (w.store.volumes id).status = .retired)
    (ok : triggerOne d msg w id = .ok (outcome, w')) :
    outcome = .skipped ∧ w' = w.emit msg (.topupSkipped id .notActive) := by
  unfold triggerOne at ok
  rw [if_pos (by rw [retired]; decide), if_neg (by rw [retired]; decide)] at ok
  cases ok
  exact ⟨rfl, rfl⟩

theorem Final.steps {call : Call} {msg : Msg} {v : Volume} {listed : Prop}
    {step : TriggerStep T P} (final : Final id v listed w.store) (isRetired : v.status = .retired)
    (member : step ∈ call.steps d msg w) (same : step.volumeId = id) :
    step.outcome = .skipped ∧ step.after = step.before.emit msg (.topupSkipped id .notActive) := by
  obtain ⟨⟨events, trace, _⟩, ran⟩ := steps_effects member
  have later : Final id v listed step.before.store :=
    (Effect.trace_store trace).1.invariant (Final id v listed) final
      fun _ _ _ taken held => held.step taken
  rw [same] at ran
  exact triggerOne_retired (later.retired isRetired) ran

/-- What a call may add to the log: an admission only if it is a creating call,
and then in its caller's name. -/
def Admitting (e : Entry T P) (added : List Event) : Prop :=
  ∀ x ∈ added, ∀ a, x.admission = some a →
    e.Succeeded ∧ e.call.creating = true ∧ a.owner = e.msg.sender

theorem call_events {e : Entry T P} (step : CallStep d outside w e w') :
    ∃ added, w'.events = w.events ++ added ∧ Admitting e added := by
  obtain ⟨added, trace, grown, emits, failed⟩ := step.store
  refine ⟨added, grown, fun x member a announced => ?_⟩
  by_cases succeeded : e.Succeeded
  · refine ⟨succeeded, ?_⟩
    cases creating : e.call.creating with
    | true =>
      obtain ⟨first, rest, b, rfl, admits, owner, _, silent⟩ := (emits succeeded).creating creating
      rcases List.mem_cons.mp member with rfl | later
      · obtain rfl := Option.some.inj (announced.symm.trans admits)
        exact ⟨rfl, owner⟩
      · rw [silent x later] at announced
        cases announced
    | false =>
      rw [((emits succeeded).other creating).2 x member] at announced
      cases announced
  · rw [(failed succeeded).1] at member
    simp at member

/-- The log of a run, cut into what each of its calls added. -/
theorem run_events (deployed : Deployed d w₀) (run : Run d outside w₀ es w) :
    ∃ emitted, w.events = emitted.flatten ∧ List.Forall₂ Admitting es emitted := by
  refine run.history (fun es w => ∃ emitted, w.events = emitted.flatten ∧
    List.Forall₂ Admitting es emitted) ⟨[], ?_, .nil⟩ ?_
  · rw [World.events, deployed.unlogged]
    rfl
  · rintro es w e w' _ step ⟨emitted, same, admitting⟩
    obtain ⟨added, grown, last⟩ := call_events step
    refine ⟨emitted ++ [added], ?_, List.rel_append admitting (.cons last .nil)⟩
    rw [grown, same, List.flatten_append, List.flatten_singleton]

/-- The lifecycle of every volume ID. The events about it spell a word of the
state machine that ends in its status, each admission is by the caller of a
creating call, a written record keeps all its fields but status and position,
and once Retired it stays so, does not come back to the active list and is
skipped by every trigger step. -/
theorem volume_lifecycle (deployed : Deployed d w₀) (run : Run d outside w₀ es w) :
    (∀ id, Word id (w.store.volumes id) (about id w.events)) ∧
    (∃ emitted, w.events = emitted.flatten ∧ List.Forall₂ Admitting es emitted) ∧
    (∀ pre post u, es = pre ++ post → Run d outside w₀ pre u → Run d outside u post w →
      ∀ id, (u.store.volumes id).status ≠ .none →
        (w.store.volumes id).written = (u.store.volumes id).written ∧
        ((u.store.volumes id).status = .retired →
          (w.store.volumes id).status = .retired ∧
          (id ∉ u.store.activeVolumeIds → id ∉ w.store.activeVolumeIds) ∧
          ∀ e ∈ post, ∀ step ∈ e.call.steps d e.msg e.before, step.volumeId = id →
            step.outcome = .skipped ∧
            step.after = step.before.emit e.msg (.topupSkipped id .notActive))) := by
  refine ⟨?_, run_events deployed run, fun pre post u _ _ rest id known => ?_⟩
  · refine run.invariant_events deployed
      (fun events s => ∀ id, Word id (s.volumes id) (about id events)) ?_ ?_
    · intro id
      simp [Word, Storage.empty, Volume.zero, Unknown, about]
    · intro events sender s e s' _ step spelled
      exact Word.step spelled step
  · have final := (Final.start known).run rest
    refine ⟨final.written, fun isRetired => ⟨final.retired isRetired, final.unlisted isRetired,
      fun e member step listed same => ?_⟩⟩
    obtain ⟨early, late, rfl⟩ := List.append_of_mem member
    obtain ⟨a, b, before, taken, _⟩ := rest.at_label
    have here := (Final.start known).run before
    rw [← taken.idle.store] at here
    exact here.steps isRetired listed same

theorem volume_lifecycle_sample :
    Word Sample.first (Sample.final.store.volumes Sample.first)
      (about Sample.first Sample.final.events) ∧
    (Sample.final.store.volumes Sample.first).status = .retired ∧
    (about Sample.first Sample.final.events).length = 5 :=
  ⟨(volume_lifecycle Sample.deployed (Sample.run anything_refl)).1
    Sample.first, by decide, by decide⟩

end SwarmVolumes.Guarantees.Lifecycle
