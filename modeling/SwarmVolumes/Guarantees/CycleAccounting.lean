import SwarmVolumes.Library.Trace
import SwarmVolumes.Source.Keeper.Cycle

/-!
# Cycle accounting

The result of a keeper cycle against what the cycle did, for every client. One
attempt adds one volume to the result, with the entry that matches its fate; the
loop is a trace of attempts; and what it leaves out is announced.
-/
namespace SwarmVolumes.Guarantees.CycleAccounting
open Library Source Source.Keeper

variable {ω : Type} {client : Client ω} {par : Parameters} {c c' : Keeper.Cycle ω}

/-! ## What an attempt adds -/

def toppedUpEntry (v : VolumeResult) : Option ToppedUp :=
  match v.status, v.summary with
  | .success, some (.toppedUp amount) => some ⟨v.volumeId, amount⟩
  | _, _ => none

def retiredEntry (v : VolumeResult) : Option VolumeOutcome :=
  match v.status, v.summary with
  | .success, some (.retired reason) => some ⟨v.volumeId, reason⟩
  | _, _ => none

def topupSkippedEntry (v : VolumeResult) : Option VolumeOutcome :=
  match v.status, v.summary with
  | .success, some (.topupSkipped reason) => some ⟨v.volumeId, reason⟩
  | _, _ => none

def noopEntry (v : VolumeResult) : Option Bytes32 :=
  match v.status, v.summary with
  | .success, some .noop => some v.volumeId
  | _, _ => none

def failedEntry (v : VolumeResult) : Option Bytes32 :=
  match v.status with
  | .failed | .reverted => some v.volumeId
  | _ => none

/-- The warning of an outcome. -/
def issue (v : VolumeResult) : Option KeeperIssue :=
  match v.status, v.summary with
  | .success, some (.retired reason) =>
    some { message := s!"retired: {reason}", volumeId := some v.volumeId, hash := v.hash }
  | .success, some (.topupSkipped reason) =>
    some { message := s!"not funded: {reason}", volumeId := some v.volumeId, hash := v.hash }
  | _, _ => none

/-- In how many lists a volume is entered. -/
def entries (v : VolumeResult) : Nat :=
  (toppedUpEntry v).toList.length + (retiredEntry v).toList.length +
    (topupSkippedEntry v).toList.length + (noopEntry v).toList.length +
    (failedEntry v).toList.length

/-- A result with one more volume. -/
def add (r : CycleResult) (v : VolumeResult) : CycleResult :=
  { r with
    ok := r.ok && (failedEntry v).isNone
    volumes := r.volumes ++ [v]
    toppedUp := r.toppedUp ++ (toppedUpEntry v).toList
    retired := r.retired ++ (retiredEntry v).toList
    topupSkipped := r.topupSkipped ++ (topupSkippedEntry v).toList
    noop := r.noop ++ (noopEntry v).toList
    failed := r.failed ++ (failedEntry v).toList
    warnings := r.warnings ++ (issue v).toList }

/-- What the fate of an attempt can look like. -/
inductive Fate (volumeId : Bytes32) : VolumeResult → Prop
  | simulated : Fate volumeId { volumeId, status := .simulated }
  | failed (hash : Option Bytes32) (e : Thrown) :
      Fate volumeId { volumeId, status := .failed, hash, error := some (message e) }
  | reverted (hash : Bytes32) (blockNumber gasUsed : Nat) :
      Fate volumeId
        { volumeId, status := .reverted, hash := some hash, blockNumber := some blockNumber,
          gasUsed := some gasUsed }
  | success (hash : Bytes32) (blockNumber gasUsed : Nat) (summary : VolumeSummary) :
      Fate volumeId
        { volumeId, status := .success, hash := some hash, blockNumber := some blockNumber,
          gasUsed := some gasUsed, summary := some summary }

/-- One attempt: when it started, and its result. -/
structure Attempt where
  startedAt : Int
  volumeId : Bytes32
  volume : VolumeResult

/-- An attempt of the loop. -/
structure Tries (client : Client ω) (par : Parameters) (c : Keeper.Cycle ω) (t : Attempt) (c' : Keeper.Cycle ω) :
    Prop where
  started : t.startedAt = client.now c.world
  volume : t.volume = (sendOne client par t.volumeId c).1
  left : c' = push (sendOne client par t.volumeId c).2 t.volume

/-! ## One attempt -/

/-- Requests leave the result alone. -/
theorem ask_result {α : Type} {request : Request ω α} {answer : Except Thrown α}
    (asked : c.ask request = (answer, c')) : c'.result = c.result := by
  unfold Cycle.ask at asked
  injection asked with _ same
  subst same
  rfl

theorem readSending_result {answer : Except Thrown Sending}
    (read : readSending client c = (answer, c')) : c'.result = c.result := by
  unfold readSending at read
  split at read
  · rename_i asked
    cases read
    exact ask_result asked
  · rename_i asked
    cases read
    exact ask_result asked

theorem useSending_result {answer : Except Thrown Sending}
    (used : useSending client c = (answer, c')) : c'.result = c.result := by
  unfold useSending at used
  split at used
  · cases used
    rfl
  · split at used
    · rename_i read
      cases used
      exact readSending_result read
    · rename_i read
      cases used
      exact (readSending_result read :)

theorem triggerVolume_result {volumeId : Bytes32} {sending : Sending} {answer : Except Thrown Bytes32}
    (sent : triggerVolume client par volumeId sending c = (answer, c')) : c'.result = c.result := by
  unfold triggerVolume at sent
  split at sent
  · rename_i asked
    cases sent
    exact ask_result asked
  · rename_i asked
    exact (ask_result sent).trans (ask_result asked)

/-- Pushing a volume after recording it adds it to the result. -/
theorem push_record {volumeId hash : Bytes32} {blockNumber gasUsed : Nat} (summary : VolumeSummary) :
    (push (record c volumeId hash summary)
      { volumeId, status := .success, hash := some hash, blockNumber := some blockNumber,
        gasUsed := some gasUsed, summary := some summary }).result =
    add c.result
      { volumeId, status := .success, hash := some hash, blockNumber := some blockNumber,
        gasUsed := some gasUsed, summary := some summary } := by
  cases summary with
  | _ =>
    simp [push, record, add, toppedUpEntry, retiredEntry, topupSkippedEntry, noopEntry, failedEntry,
      issue, Cycle.update, Cycle.warn]

/-- A transaction that was sent: its fate, and what the result gains by it. -/
theorem settle_adds {volumeId hash : Bytes32} {volume : VolumeResult}
    (settled : settle client par volumeId hash c = (.ok volume, c')) :
    Fate volumeId volume ∧ volume.status ≠ .simulated ∧ (push c' volume).result = add c.result volume := by
  unfold settle at settled
  split at settled
  · cases settled
  · rename_i receipt c₁ asked
    have same := ask_result asked
    dsimp only at settled
    split at settled
    · cases settled
      refine ⟨.reverted hash receipt.blockNumber receipt.gasUsed, nofun, ?_⟩
      simp [push, add, toppedUpEntry, retiredEntry, topupSkippedEntry, noopEntry, failedEntry, issue,
        Cycle.update, same]
    · cases settled
      refine ⟨.success hash receipt.blockNumber receipt.gasUsed _, nofun, ?_⟩
      rw [push_record, same]

theorem settle_result {volumeId hash : Bytes32} {e : Thrown}
    (settled : settle client par volumeId hash c = (.error e, c')) : c'.result = c.result := by
  unfold settle at settled
  split at settled
  · rename_i asked
    cases settled
    exact ask_result asked
  · dsimp only at settled
    split at settled
    · cases settled
    · cases settled

theorem fail_adds (volumeId : Bytes32) (hash : Option Bytes32) (e : Thrown) (c : Keeper.Cycle ω) :
    Fate volumeId (failOne volumeId hash e c).1 ∧
      (push (failOne volumeId hash e c).2 (failOne volumeId hash e c).1).result =
        add c.result (failOne volumeId hash e c).1 := by
  refine ⟨.failed hash e, ?_⟩
  simp [push, failOne, add, toppedUpEntry, retiredEntry, topupSkippedEntry, noopEntry, failedEntry,
    issue, Cycle.update]

/-- Whatever fails, an attempt adds its volume to the result; only a dry run
simulates. -/
theorem sendOne_adds (client : Client ω) (par : Parameters) (volumeId : Bytes32) (c : Keeper.Cycle ω) :
    Fate volumeId (sendOne client par volumeId c).1 ∧
      (par.dryRun = false → (sendOne client par volumeId c).1.status ≠ .simulated) ∧
      (push (sendOne client par volumeId c).2 (sendOne client par volumeId c).1).result =
        add c.result (sendOne client par volumeId c).1 := by
  have fails : ∀ (hash : Option Bytes32) (e : Thrown) (c₁ : Keeper.Cycle ω), c₁.result = c.result →
      Fate volumeId (failOne volumeId hash e c₁).1 ∧
      (par.dryRun = false → (failOne volumeId hash e c₁).1.status ≠ .simulated) ∧
      (push (failOne volumeId hash e c₁).2 (failOne volumeId hash e c₁).1).result =
        add c.result (failOne volumeId hash e c₁).1 := by
    intro hash e c₁ same
    obtain ⟨fate, adds⟩ := fail_adds volumeId hash e c₁
    exact ⟨fate, fun _ => nofun, by rw [adds, same]⟩
  unfold sendOne
  split
  · rename_i dry
    split
    · rename_i asked
      exact fails _ _ _ (ask_result asked)
    · rename_i asked
      refine ⟨.simulated, fun sends => absurd dry (by simp [sends]), ?_⟩
      rw [← ask_result asked]
      simp [push, add, toppedUpEntry, retiredEntry, topupSkippedEntry, noopEntry, failedEntry,
        issue, Cycle.update]
  · split
    · rename_i used
      exact fails _ _ _ (useSending_result used)
    · rename_i used
      split
      · rename_i sent
        exact fails _ _ _ ((triggerVolume_result sent).trans (useSending_result used))
      · rename_i sent
        have same := (triggerVolume_result sent).trans (useSending_result used)
        dsimp only
        split
        · rename_i settled
          exact fails _ _ _ ((settle_result settled).trans same)
        · rename_i settled
          obtain ⟨fate, real, adds⟩ := settle_adds settled
          exact ⟨fate, fun _ => real, adds.trans (congrArg (add · _) same)⟩

theorem Fate.volumeId {id : Bytes32} {v : VolumeResult} (fate : Fate id v) : v.volumeId = id := by
  cases fate with
  | _ => rfl

/-- A transaction that was sent is entered in exactly one list. -/
theorem Fate.entered {id : Bytes32} {v : VolumeResult} (fate : Fate id v)
    (real : v.status ≠ .simulated) : entries v = 1 := by
  cases fate with
  | simulated => exact absurd rfl real
  | failed hash e => rfl
  | reverted hash blockNumber gasUsed => rfl
  | success hash blockNumber gasUsed summary =>
    cases summary with
    | _ => rfl

/-! ## The loop -/

/-- A trace of attempts adds their volumes, one after another. -/
theorem trace_result {tries : List Attempt} (trace : Trace (Tries client par) c tries c') :
    c'.result = (tries.map Attempt.volume).foldl add c.result ∧
      (∀ t ∈ tries, Fate t.volumeId t.volume) ∧
      (par.dryRun = false → ∀ t ∈ tries, t.volume.status ≠ .simulated) := by
  refine trace.history (fun tries c' => c'.result = (tries.map Attempt.volume).foldl add c.result ∧
    (∀ t ∈ tries, Fate t.volumeId t.volume) ∧
    (par.dryRun = false → ∀ t ∈ tries, t.volume.status ≠ .simulated)) ⟨rfl, by simp, by simp⟩ ?_
  rintro tries c₁ t c₂ _ step ⟨result, fates, real⟩
  obtain ⟨fate, sent, adds⟩ := sendOne_adds client par t.volumeId c₁
  rw [← step.volume] at fate sent adds
  refine ⟨?_, fun u member => ?_, fun sends u member => ?_⟩
  · rw [step.left, adds, result, List.map_append, List.foldl_append]
    rfl
  · rcases List.mem_append.mp member with early | last
    · exact fates u early
    · rw [List.mem_singleton.mp last]
      exact fate
  · rcases List.mem_append.mp member with early | last
    · exact real sends u early
    · rw [List.mem_singleton.mp last]
      exact sent sends

/-- The loop is a trace of attempts over a prefix of its list. Only its first
attempt may start past the deadline, and what is left is announced. -/
theorem attempt_trace (client : Client ω) (par : Parameters) (deadline : Int) (i : Nat)
    (ids : List Bytes32) (c : Keeper.Cycle ω) :
    ∃ tries c₁, Trace (Tries client par) c tries c₁ ∧ tries.map Attempt.volumeId <+: ids ∧
      (∀ k t, tries[k]? = some t → 0 < i + k → t.startedAt ≤ deadline) ∧
      attempt client par deadline i ids c =
        if tries.length = ids.length then c₁
        else c₁.warn (deadlineReached (i + tries.length) (ids.length - tries.length)) := by
  induction ids generalizing i c with
  | nil => exact ⟨[], c, .nil, List.prefix_rfl, by simp, rfl⟩
  | cons id ids ih =>
    by_cases late : 0 < i ∧ deadline < client.now c.world
    · refine ⟨[], c, .nil, List.nil_prefix, by simp, ?_⟩
      rw [attempt, if_pos late]
      simp
    · let volume := (sendOne client par id c).1
      obtain ⟨tries, c₁, trace, listed, inTime, left⟩ :=
        ih (i + 1) (push (sendOne client par id c).2 volume)
      refine ⟨⟨client.now c.world, id, volume⟩ :: tries, c₁, .cons ⟨rfl, rfl, rfl⟩ trace, ?_, ?_, ?_⟩
      · rw [List.map_cons]
        exact (List.prefix_cons_inj _).mpr listed
      · intro k t found later
        cases k with
        | zero =>
          rw [List.getElem?_cons_zero] at found
          cases found
          rw [not_and, Int.not_lt] at late
          exact late later
        | succ k =>
          rw [List.getElem?_cons_succ] at found
          exact inTime k t found (by omega)
      · rw [attempt, if_neg late]
        refine left.trans ?_
        simp only [List.length_cons, Nat.add_right_cancel_iff, Nat.add_sub_add_right]
        rw [Nat.add_assoc, Nat.add_comm 1]

/-- The lists of a result are what its volumes say, in order. -/
theorem foldl_add (vs : List VolumeResult) (r : CycleResult) : vs.foldl add r =
    { r with
      ok := r.ok && vs.all fun v => (failedEntry v).isNone
      volumes := r.volumes ++ vs
      toppedUp := r.toppedUp ++ vs.filterMap toppedUpEntry
      retired := r.retired ++ vs.filterMap retiredEntry
      topupSkipped := r.topupSkipped ++ vs.filterMap topupSkippedEntry
      noop := r.noop ++ vs.filterMap noopEntry
      failed := r.failed ++ vs.filterMap failedEntry
      warnings := r.warnings ++ vs.filterMap issue } := by
  have grow : ∀ {α : Type} (f : VolumeResult → Option α) (l : List α) (v : VolumeResult)
      (vs : List VolumeResult),
      l ++ (f v).toList ++ vs.filterMap f = l ++ (v :: vs).filterMap f := by
    intro α f l v vs
    rw [List.filterMap_cons]
    cases f v with
    | none => simp
    | some a => simp
  induction vs generalizing r with
  | nil => simp
  | cons v vs ih =>
    rw [List.foldl_cons, ih]
    simp only [add, grow, List.append_assoc, List.singleton_append, List.all_cons, Bool.and_assoc]

/-! ## The enumeration -/

/-- A result nothing was attempted for. -/
def Blank (par : Parameters) (r : CycleResult) : Prop :=
  ∃ blockNumber notActive warnings, r = { mode := par.mode, blockNumber, notActive, warnings }

theorem sortViews_blank (views : List (VolumeView × Bytes32)) (ids : List Bytes32)
    (blank : Blank par c.result) : Blank par (views.foldl sortView (ids, c)).2.result := by
  induction views generalizing ids c with
  | nil => exact blank
  | cons view views ih =>
    rw [List.foldl_cons, sortView]
    split
    · exact ih _ blank
    · apply ih
      obtain ⟨blockNumber, notActive, warnings, same⟩ := blank
      exact ⟨blockNumber, notActive ++ [view.2], warnings ++ [notActiveIssue view.2],
        by simp [Cycle.warn, Cycle.update, same]⟩

theorem collectIds_blank {blockNumber : BitVec 256} {answer : Except Thrown (List Bytes32)}
    (blank : Blank par c.result) (collected : collectIds client par blockNumber c = (answer, c')) :
    Blank par c'.result := by
  unfold collectIds at collected
  split at collected
  · split at collected
    · rename_i asked
      cases collected
      rwa [ask_result asked]
    · rename_i asked
      cases collected
      rwa [ask_result asked]
  · split at collected
    · rename_i asked
      cases collected
      rwa [ask_result asked]
    · rename_i asked
      cases collected
      apply sortViews_blank
      rwa [ask_result asked]

theorem enumerate_blank {w : ω} {answer : Except Thrown (BitVec 256 × List Bytes32)}
    (enumerated : enumerate client par (.start par w) = (answer, c)) : Blank par c.result := by
  have start : Blank par (Cycle.start par w).result := ⟨none, [], [], rfl⟩
  unfold enumerate at enumerated
  split at enumerated
  · rename_i asked
    cases enumerated
    rwa [ask_result asked]
  · rename_i blockNumber c₁ asked
    have blank : Blank par (c₁.update fun r => { r with blockNumber := some blockNumber }).result :=
      ⟨some blockNumber, [], [], by rw [Cycle.update, ask_result asked]; rfl⟩
    dsimp only at enumerated
    split at enumerated
    · rename_i collected
      cases enumerated
      exact collectIds_blank blank collected
    · rename_i collected
      cases enumerated
      exact collectIds_blank blank collected

theorem rotateVolumes_perm {α : Type} (keccak256 : BitVec 256 → BitVec 256) (ids : List α)
    (blockNumber : BitVec 256) : (rotateVolumes keccak256 ids blockNumber).Perm ids := by
  unfold rotateVolumes
  split
  · exact .refl _
  · have parts := List.take_append_drop ((keccak256 blockNumber).toNat % ids.length) ids
    refine List.perm_append_comm.trans ?_
    rw [parts]

/-- The announcement of volumes left to the next cycle, if there are any. -/
def deferral (deferred : Nat) (issue : KeeperIssue) : List KeeperIssue :=
  if deferred = 0 then [] else [issue]

/-- What the two truncations leave out is announced. -/
theorem triggerVolumes_trace (client : Client ω) (par : Parameters)
    (keccak256 : BitVec 256 → BitVec 256) (deadline : Int) (blockNumber : BitVec 256)
    (ids : List Bytes32) (c : Keeper.Cycle ω) :
    ∃ tries c₀ c₁ byCount byDeadline skipped, Trace (Tries client par) c₀ tries c₁ ∧
      c₀.world = c.world ∧
      c₀.result = { c.result with
        volumeCount := ids.length
        skipped
        warnings := c.result.warnings ++ deferral byCount (maxReached par.maxVolumesPerCycle byCount) } ∧
      tries.map Attempt.volumeId <+: rotateVolumes keccak256 ids blockNumber ∧
      tries.length ≤ par.maxVolumesPerCycle ∧ (∀ t ∈ tries.tail, t.startedAt ≤ deadline) ∧
      tries.length + byCount + byDeadline = ids.length ∧
      triggerVolumes client keccak256 par deadline blockNumber ids c = { c₁ with
        result := { c₁.result with
          warnings := c₁.result.warnings ++
            deferral byDeadline (deadlineReached tries.length byDeadline) } } := by
  unfold triggerVolumes
  dsimp only
  generalize counted : (c.update fun r => { r with volumeCount := ids.length }) = c'
  split
  · rename_i none
    generalize ended : (c'.update fun r => { r with skipped := some "no active volumes" }) = c₀
    refine ⟨[], c₀, c₀, 0, 0, some "no active volumes", .nil, ?_, ?_, List.nil_prefix, Nat.zero_le _,
      by simp, none.symm, ?_⟩
    · rw [← ended, ← counted]
      rfl
    · rw [← ended, ← counted]
      simp [Cycle.update, deferral]
    · simp [deferral]
  · generalize attempts : (rotateVolumes keccak256 ids blockNumber).take par.maxVolumesPerCycle =
      attempting
    have count : attempting.length = min par.maxVolumesPerCycle ids.length := by
      rw [← attempts, List.length_take, (rotateVolumes_perm keccak256 ids blockNumber).length_eq]
    generalize warned : (if attempting.length < ids.length then
      c'.warn (maxReached par.maxVolumesPerCycle (ids.length - attempting.length)) else c') = c₀
    obtain ⟨tries, c₁, trace, listed, inTime, left⟩ :=
      attempt_trace client par deadline 0 attempting c₀
    have fewer := listed.length_le
    rw [List.length_map] at fewer
    refine ⟨tries, c₀, c₁, ids.length - attempting.length, attempting.length - tries.length,
      c.result.skipped, trace, ?_, ?_, ?_, ?_, ?_, ?_, ?_⟩
    · rw [← warned, ← counted]
      split
      · rfl
      · rfl
    · rw [← warned, ← counted]
      split
      · simp [Cycle.warn, Cycle.update, deferral]
        omega
      · have whole : ids.length - attempting.length = 0 := by omega
        simp [Cycle.update, deferral, whole]
    · rw [← attempts] at listed
      exact listed.trans (List.take_prefix _ _)
    · omega
    · intro t member
      obtain ⟨k, found⟩ := List.mem_iff_getElem?.mp member
      rw [List.getElem?_tail] at found
      exact inTime (k + 1) t found (by omega)
    · omega
    · rw [left]
      split
      · rename_i whole
        simp [deferral, whole]
      · have some : attempting.length - tries.length ≠ 0 := by omega
        simp [Cycle.warn, Cycle.update, deferral, some]

/-! ## Dry runs -/

/-- The client with another way to send. -/
def withWrite (client : Client ω) (write : Transaction → Request ω Bytes32) : Client ω :=
  { client with writeContract := write }

variable {write : Transaction → Request ω Bytes32}

theorem withWrite_now : (withWrite client write).now = client.now := rfl

theorem sendOne_dry (dry : par.dryRun = true) (volumeId : Bytes32) (c : Keeper.Cycle ω) :
    sendOne (withWrite client write) par volumeId c = sendOne client par volumeId c := by
  rw [sendOne, sendOne, if_pos dry, if_pos dry]
  rfl

theorem attempt_dry (dry : par.dryRun = true) (deadline : Int) (i : Nat) (ids : List Bytes32)
    (c : Keeper.Cycle ω) :
    attempt (withWrite client write) par deadline i ids c = attempt client par deadline i ids c := by
  induction ids generalizing i c with
  | nil => rfl
  | cons id ids ih =>
    rw [attempt, attempt, sendOne_dry dry, withWrite_now]
    split
    · rfl
    · exact ih ..

/-- A dry run is the same whatever sending would do. -/
theorem runKeeperCycle_dry (dry : par.dryRun = true) (keccak256 : BitVec 256 → BitVec 256) (w : ω) :
    runKeeperCycle (withWrite client write) keccak256 par w =
      runKeeperCycle client keccak256 par w := by
  unfold runKeeperCycle triggerVolumes
  simp only [attempt_dry dry]
  rfl

/-! ## The cycle -/

/-- A cycle that read its volumes: `ids` at `blockNumber`, in the cycle `c`. -/
structure Attempted (client : Client ω) (keccak256 : BitVec 256 → BitVec 256) (par : Parameters)
    (deadline : Int) (blockNumber : BitVec 256) (ids : List Bytes32) (c : Keeper.Cycle ω) (r : CycleResult)
    (w' : ω) : Prop where
  error : r.error = none
  volumeCount : r.volumeCount = ids.length
  permutation : (rotateVolumes keccak256 ids blockNumber).Perm ids
  volumes : r.volumes.map VolumeResult.volumeId <+: rotateVolumes keccak256 ids blockNumber
  bounded : r.volumes.length ≤ par.maxVolumesPerCycle
  deferred : ∃ byCount byDeadline, r.volumes.length + byCount + byDeadline = r.volumeCount ∧
    r.warnings = c.result.warnings ++
      deferral byCount (maxReached par.maxVolumesPerCycle byCount) ++
      r.volumes.filterMap issue ++
      deferral byDeadline (deadlineReached r.volumes.length byDeadline)
  attempts : ∃ tries c₀ c₁, Trace (Tries client par) c₀ tries c₁ ∧ c₀.world = c.world ∧
    w' = c₁.world ∧ r.volumes = tries.map Attempt.volume ∧
    ∀ t ∈ tries.tail, t.startedAt ≤ deadline

/-- The law of a cycle: `r` and `w'` are what it leaves. -/
structure Accounted (client : Client ω) (keccak256 : BitVec 256 → BitVec 256) (par : Parameters)
    (w : ω) (r : CycleResult) (w' : ω) : Prop where
  attempted : ∀ blockNumber ids c,
    enumerate client par (.start par w) = (.ok (blockNumber, ids), c) →
    Attempted client keccak256 par (client.now w + par.cycleTimeout) blockNumber ids c r w'
  unread : ∀ e c, enumerate client par (.start par w) = (.error e, c) →
    r.error = some (message e) ∧ r.volumes = []
  entered : par.dryRun = false → ∀ v ∈ r.volumes, entries v = 1
  toppedUp : r.toppedUp = r.volumes.filterMap toppedUpEntry
  retired : r.retired = r.volumes.filterMap retiredEntry
  topupSkipped : r.topupSkipped = r.volumes.filterMap topupSkippedEntry
  noop : r.noop = r.volumes.filterMap noopEntry
  failed : r.failed = r.volumes.filterMap failedEntry
  dry : par.dryRun = true → ∀ write,
    runKeeperCycle (withWrite client write) keccak256 par w = (r, w')
  ok : r.ok = false ↔ r.failed ≠ [] ∨ r.error ≠ none
  error : r.error ≠ none → r.volumes = []

/-- The lists of a result are those of its volumes, and its verdict is theirs. -/
structure Listed (r : CycleResult) : Prop where
  toppedUp : r.toppedUp = r.volumes.filterMap toppedUpEntry
  retired : r.retired = r.volumes.filterMap retiredEntry
  topupSkipped : r.topupSkipped = r.volumes.filterMap topupSkippedEntry
  noop : r.noop = r.volumes.filterMap noopEntry
  failed : r.failed = r.volumes.filterMap failedEntry
  ok : r.ok = false ↔ r.failed ≠ [] ∨ r.error ≠ none
  error : r.error ≠ none → r.volumes = []

/-- A cycle that could not read its volumes says so, and attempts nothing. -/
theorem unread_result {e : Thrown} (keccak256 : BitVec 256 → BitVec 256)
    (read : enumerate client par (.start par w) = (.error e, c)) :
    (runKeeperCycle client keccak256 par w).1.error = some (message e) ∧
      (runKeeperCycle client keccak256 par w).1.volumes = [] ∧
      Listed (runKeeperCycle client keccak256 par w).1 := by
  generalize ran : runKeeperCycle client keccak256 par w = left
  unfold runKeeperCycle at ran
  obtain ⟨_, _, _, blank⟩ := enumerate_blank read
  simp only [read, Cycle.update] at ran
  rw [blank] at ran
  subst ran
  exact ⟨rfl, rfl, rfl, rfl, rfl, rfl, rfl, by simp, fun _ => rfl⟩

/-- A cycle that read its volumes leaves what its attempts add, and the two announcements. -/
theorem read_result {ids : List Bytes32} {blockNumber : BitVec 256} (keccak256 : BitVec 256 → BitVec 256)
    (read : enumerate client par (.start par w) = (.ok (blockNumber, ids), c)) :
    Attempted client keccak256 par (client.now w + par.cycleTimeout) blockNumber ids c
        (runKeeperCycle client keccak256 par w).1 (runKeeperCycle client keccak256 par w).2 ∧
      Listed (runKeeperCycle client keccak256 par w).1 := by
  generalize ran : runKeeperCycle client keccak256 par w = left
  unfold runKeeperCycle at ran
  obtain ⟨_, _, _, blank⟩ := enumerate_blank read
  obtain ⟨tries, c₀, c₁, byCount, byDeadline, skipped, trace, world, begun, listed, bounded, inTime,
    sum, ended⟩ := triggerVolumes_trace client par keccak256 (client.now w + par.cycleTimeout)
      blockNumber ids c
  obtain ⟨result, fates, _⟩ := trace_result trace
  have named : (tries.map Attempt.volume).map VolumeResult.volumeId = tries.map Attempt.volumeId := by
    rw [List.map_map]
    apply List.map_congr_left
    intro t member
    exact (fates t member).volumeId
  simp only [read] at ran
  rw [ended, result, foldl_add, begun, blank] at ran
  simp only [List.nil_append, Bool.true_and] at ran
  subst ran
  constructor
  · constructor
    · rfl
    · rfl
    · exact rotateVolumes_perm ..
    · rwa [named]
    · rwa [List.length_map]
    · refine ⟨byCount, byDeadline, ?_, ?_⟩
      · rwa [List.length_map]
      · rw [List.length_map, blank]
    · exact ⟨tries, c₀, c₁, trace, world, rfl, rfl, inTime⟩
  · exact ⟨rfl, rfl, rfl, rfl, rfl, by simp, fun failed => absurd rfl failed⟩

theorem runKeeperCycle_listed (client : Client ω) (keccak256 : BitVec 256 → BitVec 256)
    (par : Parameters) (w : ω) : Listed (runKeeperCycle client keccak256 par w).1 := by
  generalize read : enumerate client par (.start par w) = reply
  obtain ⟨answer, c⟩ := reply
  cases answer with
  | error e => exact (unread_result keccak256 read).2.2
  | ok found => exact (read_result keccak256 read).2

/-- A volume that was sent for is in exactly one of the lists. -/
theorem runKeeperCycle_entered (client : Client ω) (keccak256 : BitVec 256 → BitVec 256)
    (w : ω) (sends : par.dryRun = false) :
    ∀ v ∈ (runKeeperCycle client keccak256 par w).1.volumes, entries v = 1 := by
  generalize read : enumerate client par (.start par w) = reply
  obtain ⟨answer, c⟩ := reply
  cases answer with
  | error e =>
    rw [(unread_result keccak256 read).2.1]
    simp
  | ok found =>
    obtain ⟨tries, _, _, trace, _, _, volumes, _⟩ := (read_result keccak256 read).1.attempts
    obtain ⟨_, fates, real⟩ := trace_result trace
    intro v member
    rw [volumes] at member
    obtain ⟨t, listed, rfl⟩ := List.mem_map.mp member
    exact (fates t listed).entered (real sends t listed)

/-- Every cycle accounts for its volumes, whatever its client answers or throws. -/
theorem cycle_accounting (client : Client ω) (keccak256 : BitVec 256 → BitVec 256)
    (par : Parameters) (w : ω) :
    Accounted client keccak256 par w (runKeeperCycle client keccak256 par w).1
      (runKeeperCycle client keccak256 par w).2 := by
  have listed := runKeeperCycle_listed client keccak256 par w
  constructor
  · intro blockNumber ids c read
    exact (read_result keccak256 read).1
  · intro e c read
    obtain ⟨said, none, _⟩ := unread_result keccak256 read
    exact ⟨said, none⟩
  · exact runKeeperCycle_entered client keccak256 w
  · exact listed.toppedUp
  · exact listed.retired
  · exact listed.topupSkipped
  · exact listed.noop
  · exact listed.failed
  · exact fun dry write => runKeeperCycle_dry dry keccak256 w
  · exact listed.ok
  · exact listed.error

end SwarmVolumes.Guarantees.CycleAccounting
