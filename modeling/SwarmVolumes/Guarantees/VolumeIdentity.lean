import SwarmVolumes.Source.Registry.Reverts
import SwarmVolumes.Source.Registry.Sample
import Mathlib.Data.List.Basic

/-!
# Volume identity

An account's nonce counts its owner's creating calls, the k-th of them returns
the hash of owner and k, and records exist at exactly the IDs returned so far.
With an injective hash no ID is issued twice and the collision check is dead.
-/
namespace SwarmVolumes.Guarantees.VolumeIdentity
open Library Source

variable {T P : Type} {d : Deployment T P} {sender : Address} {s s' : Storage}

/-- The successful creating calls of `owner`, in order. -/
def creations (es : List (Entry T P)) (owner : Address) : List (Entry T P) :=
  es.filter fun e => e.msg.sender = owner ∧ e.call.creating = true ∧ e.Succeeded

theorem creations_snoc (es : List (Entry T P)) (e : Entry T P) (owner : Address) :
    creations (es ++ [e]) owner = creations es owner ++
      if e.msg.sender = owner ∧ e.call.creating = true ∧ e.Succeeded then [e] else [] := by
  unfold creations
  rw [List.filter_append]
  congr 1
  split
  · rename_i counted
    simp [counted]
  · rename_i skipped
    simp [skipped]

/-- An admission consumes the caller's nonce and writes at the ID it hashes to. -/
theorem step_admission {e : Event} {a : Admission} (announced : e.admission = some a)
    (step : StoreStep d sender s e s') :
    a.volumeId = d.volumeId sender (s.accounts sender).nonce ∧
    (s.volumes a.volumeId).status = .none ∧
    (∀ o, (s'.accounts o).nonce =
      if o = sender then (s.accounts o).nonce + 1 else (s.accounts o).nonce) ∧
    ∀ id, (s'.volumes id).status = .none ↔ id ≠ a.volumeId ∧ (s.volumes id).status = .none := by
  cases step with
  | @admitted _ b timestamp nextNonce admits owner auth named unused =>
    obtain rfl := Option.some.inj (announced.symm.trans admits)
    refine ⟨named, unused, fun o => ?_, fun id => ?_⟩
    · rw [Storage.enter_accounts, owner]
      split
      · rfl
      · rfl
    · rw [Storage.enter_volumes]
      split
      · rename_i same
        simp [same, Admission.record]
      · rename_i different
        simp [different]
  | _ => cases announced

variable {outside : World T P → World T P → Prop} {w₀ w w' : World T P} {es : List (Entry T P)}

/-- A call that is not a successful creating one: nonces and record IDs stay. -/
theorem call_quiet {e : Entry T P} (step : CallStep d outside w e w')
    (quiet : ¬ (e.call.creating = true ∧ e.Succeeded)) :
    (e.Succeeded → e.returned = none) ∧
    (∀ o, (w'.store.accounts o).nonce = (w.store.accounts o).nonce) ∧
    ∀ id, (w'.store.volumes id).status = .none ↔ (w.store.volumes id).status = .none := by
  obtain ⟨events, trace, _, emits, failed⟩ := step.store
  by_cases succeeded : e.Succeeded
  · have other : e.call.creating = false :=
      Bool.eq_false_iff.mpr fun creating => quiet ⟨creating, succeeded⟩
    obtain ⟨nothing, silent⟩ := (emits succeeded).other other
    obtain ⟨nonces, records⟩ := trace_quiet silent trace
    exact ⟨fun _ => nothing, nonces, fun id => (records id).1⟩
  · rw [(failed succeeded).1] at trace
    rw [trace.nil_eq]
    exact ⟨fun yes => absurd yes succeeded, fun _ => rfl, fun _ => .rfl⟩

/-- A successful creating call: its caller's next ID, unused until now. -/
theorem call_creating {e : Entry T P} (step : CallStep d outside w e w')
    (creating : e.call.creating = true) (succeeded : e.Succeeded) :
    ∃ id, id = d.volumeId e.msg.sender (w.store.accounts e.msg.sender).nonce ∧
      e.returned = some id ∧ (w.store.volumes id).status = .none ∧
      (∀ o, (w'.store.accounts o).nonce = if o = e.msg.sender
        then (w.store.accounts o).nonce + 1 else (w.store.accounts o).nonce) ∧
      ∀ other, (w'.store.volumes other).status = .none ↔
        other ≠ id ∧ (w.store.volumes other).status = .none := by
  obtain ⟨events, trace, _, emits, _⟩ := step.store
  obtain ⟨first, rest, a, rfl, announced, _, returned, silent⟩ := (emits succeeded).creating creating
  obtain ⟨mid, admission, later⟩ := trace.uncons
  obtain ⟨named, unused, nonces, records⟩ := step_admission announced admission
  obtain ⟨sameNonces, sameRecords⟩ := trace_quiet silent later
  exact ⟨a.volumeId, named, returned, unused, fun o => (sameNonces o).trans (nonces o),
    fun id => (sameRecords id).1.trans (records id)⟩

/-- What a run with calls `es` has issued. -/
structure Issued (d : Deployment T P) (es : List (Entry T P)) (s : Storage) : Prop where
  nonce : ∀ o, (s.accounts o).nonce = UInt64.ofNat (creations es o).length
  returned : ∀ o k e, (creations es o)[k]? = some e →
    e.returned = some (d.volumeId o (UInt64.ofNat k))
  record : ∀ id, (s.volumes id).status ≠ .none ↔ ∃ o, ∃ e ∈ creations es o, e.returned = some id
  unique : (es.filterMap Entry.returned).Nodup
  counted : ∀ e ∈ es, ∀ id, e.returned = some id → e ∈ creations es e.msg.sender

theorem Issued.start : Issued d ([] : List (Entry T P)) .empty where
  nonce o := rfl
  returned o k e found := by simp [creations] at found
  record id := by simp [Storage.empty, Volume.zero, creations]
  unique := .nil
  counted e member := by simp at member

theorem returned_succeeded {e : Entry T P} {id : Bytes32} (returned : e.returned = some id) :
    e.Succeeded := by
  cases same : e.result with
  | error r => simp [Entry.returned, same] at returned
  | ok pair => simp [Entry.Succeeded, same, Except.isOk, Except.toBool]

theorem Issued.quiet {e : Entry T P} (issued : Issued d es w.store)
    (step : CallStep d outside w e w') (quiet : ¬ (e.call.creating = true ∧ e.Succeeded)) :
    Issued d (es ++ [e]) w'.store := by
  obtain ⟨nothing, nonces, records⟩ := call_quiet step quiet
  have same : ∀ o, creations (es ++ [e]) o = creations es o := by
    intro o
    rw [creations_snoc, if_neg fun counted => quiet counted.2, List.append_nil]
  have silent : e.returned = none := by
    by_cases succeeded : e.Succeeded
    · exact nothing succeeded
    · exact Option.eq_none_iff_forall_ne_some.mpr fun id some => succeeded (returned_succeeded some)
  refine ⟨fun o => ?_, fun o => ?_, fun id => ?_, ?_, fun x member id returned => ?_⟩
  · rw [nonces, same]
    exact issued.nonce o
  · rw [same]
    exact issued.returned o
  · simp only [same]
    rw [← issued.record, not_iff_not]
    exact records id
  · rw [List.filterMap_append]
    simpa [silent] using issued.unique
  · rw [same]
    rcases List.mem_append.mp member with early | last
    · exact issued.counted x early id returned
    · rw [List.mem_singleton.mp last, silent] at returned
      cases returned

theorem Issued.creating {e : Entry T P} (issued : Issued d es w.store)
    (step : CallStep d outside w e w') (creating : e.call.creating = true)
    (succeeded : e.Succeeded) : Issued d (es ++ [e]) w'.store := by
  obtain ⟨id, named, returned, unused, nonces, records⟩ := call_creating step creating succeeded
  have mine : creations (es ++ [e]) e.msg.sender = creations es e.msg.sender ++ [e] := by
    rw [creations_snoc, if_pos ⟨rfl, creating, succeeded⟩]
  have theirs : ∀ o, e.msg.sender ≠ o → creations (es ++ [e]) o = creations es o := by
    intro o different
    rw [creations_snoc, if_neg fun counted => different counted.1, List.append_nil]
  have grown : ∀ o x, x ∈ creations (es ++ [e]) o ↔
      x ∈ creations es o ∨ (o = e.msg.sender ∧ x = e) := by
    intro o x
    by_cases same : e.msg.sender = o
    · subst same
      simp [mine]
    · simp [theirs o same, Ne.symm same]
  refine ⟨fun o => ?_, fun o k x found => ?_, fun other => ?_, ?_, fun x member other issuedTo => ?_⟩
  · rw [nonces]
    split
    · rename_i same
      rw [same, mine, issued.nonce, List.length_append, List.length_singleton, UInt64.ofNat_add]
      rfl
    · rename_i different
      rw [theirs o (Ne.symm different)]
      exact issued.nonce o
  · by_cases same : e.msg.sender = o
    · subst same
      rw [mine] at found
      rcases Nat.lt_or_ge k (creations es e.msg.sender).length with inside | outside
      · rw [List.getElem?_append_left inside] at found
        exact issued.returned _ k x found
      · rw [List.getElem?_append_right outside] at found
        have last : k - (creations es e.msg.sender).length = 0 ∧ e = x := by
          cases offset : k - (creations es e.msg.sender).length with
          | zero => simpa [offset] using found
          | succ j => simp [offset] at found
        have count : k = (creations es e.msg.sender).length := by omega
        rw [← last.2, returned, named, issued.nonce, count]
    · rw [theirs o same] at found
      exact issued.returned o k x found
  · rw [Ne, records, not_and_or, not_not]
    constructor
    · rintro (rfl | known)
      · exact ⟨e.msg.sender, e, (grown _ _).mpr (.inr ⟨rfl, rfl⟩), returned⟩
      · obtain ⟨o, x, member, gave⟩ := (issued.record other).mp known
        exact ⟨o, x, (grown _ _).mpr (.inl member), gave⟩
    · rintro ⟨o, x, member, gave⟩
      rcases (grown o x).mp member with early | ⟨rfl, rfl⟩
      · exact .inr ((issued.record other).mpr ⟨o, x, early, gave⟩)
      · exact .inl (Option.some.inj (gave.symm.trans returned))
  · rw [List.filterMap_append, List.nodup_append]
    refine ⟨issued.unique, by simp [returned], fun x early y last same => ?_⟩
    have isNew : y = id := by simpa [returned, eq_comm] using last
    obtain ⟨earlier, member, gave⟩ := List.mem_filterMap.mp early
    have known := (issued.record x).mpr
      ⟨_, earlier, issued.counted earlier member x gave, gave⟩
    rw [same, isNew] at known
    exact known unused
  · rcases List.mem_append.mp member with early | last
    · exact (grown _ _).mpr (.inl (issued.counted x early other issuedTo))
    · rw [List.mem_singleton.mp last]
      exact (grown _ _).mpr (.inr ⟨rfl, rfl⟩)

theorem run_issued (deployed : Deployed d w₀) (run : Run d outside w₀ es w) :
    Issued d es w.store := by
  refine run.history (fun es w => Issued d es w.store) ?_ ?_
  · rw [deployed.store]
    exact .start
  · intro es w e w' _ step issued
    by_cases creates : e.call.creating = true ∧ e.Succeeded
    · exact issued.creating step creates.1 creates.2
    · exact issued.quiet step creates

/-- The hash tells apart any two pairs of an address and a 64-bit nonce. -/
def Injective (d : Deployment T P) : Prop := ∀ o n o' n',
  d.keccak256 [abiAddress o, abiUint64 n] = d.keccak256 [abiAddress o', abiUint64 n'] →
    o = o' ∧ n = n'

/-- With an injective hash the used IDs of an owner are those below its nonce. -/
theorem Issued.record_iff {s : Storage} (issued : Issued d es s) (injective : Injective d)
    {o : Address} (few : (creations es o).length < 2 ^ 64) (n : UInt64) :
    (s.volumes (d.volumeId o n)).status ≠ .none ↔ n < (s.accounts o).nonce := by
  have count : (s.accounts o).nonce.toNat = (creations es o).length := by
    rw [issued.nonce]
    exact UInt64.toNat_ofNat_of_lt' few
  rw [issued.record, UInt64.lt_iff_toNat_lt, count]
  constructor
  · rintro ⟨o', e, member, gave⟩
    obtain ⟨k, found⟩ := List.mem_iff_getElem?.mp member
    have hashed := Option.some.inj (gave.symm.trans (issued.returned o' k e found))
    obtain ⟨rfl, same⟩ := injective _ _ _ _ hashed
    have inside := (List.getElem?_eq_some_iff.mp found).1
    rw [same, UInt64.toNat_ofNat_of_lt' (inside.trans few)]
    exact inside
  · intro inside
    have found := List.getElem?_eq_getElem inside
    refine ⟨o, _, List.mem_of_getElem? found, ?_⟩
    rw [issued.returned o _ _ found, UInt64.ofNat_toNat]

/-- The check on the next ID of a caller that is not out of nonces passes. -/
theorem Issued.unused {s : Storage} (issued : Issued d es s) (injective : Injective d)
    {o : Address} (few : (creations es o).length < 2 ^ 64) :
    (s.volumes (d.volumeId o (s.accounts o).nonce)).status = .none := by
  by_contra used
  exact absurd ((issued.record_iff injective few _).mp used) (UInt64.lt_irrefl _)

/-- Identity over whole runs: nonces count creating calls and nothing else moves
them, the k-th creating call of an owner returns its hash with k, records exist
at the issued IDs and nowhere else, no ID is issued twice and the collision
check never fires. -/
theorem volume_identity (injective : Injective d) (deployed : Deployed d w₀)
    (run : Run d outside w₀ es w) :
    (∀ o, (creations es o).length < 2 ^ 64 →
      (w.store.accounts o).nonce.toNat = (creations es o).length ∧
      ∀ n, (w.store.volumes (d.volumeId o n)).status ≠ .none ↔ n < (w.store.accounts o).nonce) ∧
    (∀ e ∈ es, ∀ o, ¬ (e.msg.sender = o ∧ e.call.creating = true ∧ e.Succeeded) →
      (e.after.store.accounts o).nonce = (e.before.store.accounts o).nonce) ∧
    (∀ o k e, (creations es o)[k]? = some e →
      e.returned = some (d.keccak256 [abiAddress o, abiUint64 (UInt64.ofNat k)])) ∧
    (∀ id, (w.store.volumes id).status ≠ .none →
      ∃ o k, k < (creations es o).length ∧ id = d.volumeId o (UInt64.ofNat k)) ∧
    (es.filterMap Entry.returned).Nodup ∧
    (∀ e ∈ es, (creations es e.msg.sender).length < 2 ^ 64 →
      e.result ≠ .error (.require "VOLUMEID_COLLISION")) := by
  have issued := run_issued deployed run
  refine ⟨fun o few => ⟨?_, issued.record_iff injective few⟩, fun e member o others => ?_,
    issued.returned, fun id known => ?_, issued.unique, fun e member few => ?_⟩
  · rw [issued.nonce]
    exact UInt64.toNat_ofNat_of_lt' few
  · obtain ⟨pre, post, rfl⟩ := List.append_of_mem member
    obtain ⟨a, b, _, step, _⟩ := run.at_label
    rw [← step.left, step.idle.store]
    by_cases creates : e.call.creating = true ∧ e.Succeeded
    · obtain ⟨id, _, _, _, nonces, _⟩ := call_creating step creates.1 creates.2
      rw [nonces, if_neg fun same => others ⟨same.symm, creates⟩]
    · exact (call_quiet step creates).2.1 o
  · obtain ⟨o, e, member, gave⟩ := (issued.record id).mp known
    obtain ⟨k, found⟩ := List.mem_iff_getElem?.mp member
    exact ⟨o, k, (List.getElem?_eq_some_iff.mp found).1,
      Option.some.inj (gave.symm.trans (issued.returned o k e found))⟩
  · obtain ⟨pre, post, rfl⟩ := List.append_of_mem member
    obtain ⟨a, b, before, step, _⟩ := run.at_label
    have room : (creations pre e.msg.sender).length < 2 ^ 64 := by
      refine lt_of_le_of_lt ?_ few
      rw [creations, creations, List.filter_append, List.length_append]
      exact Nat.le_add_right _ _
    have free := (run_issued deployed before).unused injective room
    rw [← step.idle.store] at free
    have avoids : Avoids (· = Revert.require "VOLUMEID_COLLISION")
        (execute d e.msg e.before e.call) := by
      refine execute_avoids (fun r same => .inr (.inr same)) (fun v _ id _ => ?_) fun _ _ => free
      exact Storage.retire_avoids_collision
    rw [← step.executed] at avoids
    exact fun collision => avoids _ collision rfl

/-- The stand-in hash of the sample is injective. -/
theorem sample_injective : Injective Sample.deployment := by
  intro o n o' n' same
  have first : o.toNat < 2 ^ 160 := o.isLt
  have second : o'.toNat < 2 ^ 160 := o'.isLt
  have third := n.toNat_lt
  have fourth := n'.toNat_lt
  have words := congrArg BitVec.toNat same
  simp only [Sample.deployment, Sample.pack, abiAddress, abiUint64, BitVec.toNat_ofNat,
    BitVec.toNat_setWidth, UInt64.toNat_toBitVec] at words
  rw [Nat.mod_eq_of_lt (a := o.toNat) (by omega), Nat.mod_eq_of_lt (a := n.toNat) (by omega),
    Nat.mod_eq_of_lt (a := o'.toNat) (by omega), Nat.mod_eq_of_lt (a := n'.toNat) (by omega),
    Nat.mod_eq_of_lt (by omega), Nat.mod_eq_of_lt (by omega)] at words
  exact ⟨BitVec.eq_of_toNat_eq (by omega), UInt64.toNat_inj.mp (by omega)⟩

theorem volume_identity_sample :
    (Sample.final.store.accounts Sample.owner).nonce.toNat = 2 ∧
    (Sample.entries.filterMap Entry.returned).Nodup := by
  have identity := volume_identity sample_injective Sample.deployed (Sample.run anything_refl)
  have count : (creations Sample.entries Sample.owner).length = 2 := by decide
  refine ⟨?_, identity.2.2.2.2.1⟩
  rw [(identity.1 Sample.owner (by rw [count]; decide)).1, count]

end SwarmVolumes.Guarantees.VolumeIdentity
