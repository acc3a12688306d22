import SwarmVolumes.Guarantees.CycleAccounting
import SwarmVolumes.Source.Keeper.Report

/-!
# The verdict on a cycle

The report decides anew whether a cycle failed: from its errors and its volumes,
not from `ok`. The two agree unless what stopped the cycle was thrown with an
empty message, which the report takes for no error.
-/
namespace SwarmVolumes.Guarantees.Verdict
open Library Source Source.Keeper CycleAccounting

variable {ω : Type} {platform : Platform}

/-- A volume whose transaction reverted or never confirmed. -/
def Lost (v : VolumeResult) : Prop := v.status = .failed ∨ v.status = .reverted

instance (v : VolumeResult) : Decidable (Lost v) := inferInstanceAs (Decidable (_ ∨ _))

/-- The report and the exception of a run say of the cycle what its result says. -/
structure Faithful (r : CycleResult) (report : KeeperReport) (thrown : Option String) : Prop where
  verdict : report.status = .failure ↔ r.ok = false
  failures : report.status = .failure ↔ report.failures ≠ []
  named : report.failures.filterMap KeeperIssue.volumeId =
    (r.volumes.filter fun v => Lost v).map VolumeResult.volumeId
  warnings : r.warnings <:+ report.warnings
  outcomes : (report.outcomes.map Prod.snd).sum = r.volumes.length
  thrown : thrown.isSome = true ↔ r.ok = false

/-! ## Scrubbing -/

/-- No configured secret is short enough to hide a verdict. -/
theorem scheduled_isSome {rpcUrls others : List String} {report : KeeperReport} :
    (scheduled platform rpcUrls others report).isSome = true ↔ report.status = .failure := by
  have kept : scrub (scrubPairs platform rpcUrls others) report.status.text = report.status.text := by
    apply scrub_absent
    intro pair member inside
    have long := scrubPairs_long member
    have short : units report.status.text.toList < 8 := by
      cases report.status with
      | _ => decide
    have within := units_le_of_infix inside
    omega
  unfold scheduled
  dsimp only
  rw [kept]
  cases report.status with
  | _ => simp [RunStatus.text]

/-! ## Failures -/

theorem volumeFailure_named (v : VolumeResult) :
    (volumeFailure v).bind KeeperIssue.volumeId = if Lost v then some v.volumeId else none := by
  unfold volumeFailure
  by_cases lost : Lost v
  · have sent : ¬ (v.status ≠ .failed ∧ v.status ≠ .reverted) := fun ⟨a, b⟩ => lost.elim a b
    rw [if_neg sent, if_pos lost]
    rfl
  · have sent : v.status ≠ .failed ∧ v.status ≠ .reverted := not_or.mp lost
    rw [if_pos sent, if_neg lost]
    rfl

theorem volumeFailure_failed (v : VolumeResult) :
    volumeFailure v = none ↔ failedEntry v = none := by
  unfold volumeFailure failedEntry
  cases same : v.status with
  | _ => simp

/-- The named failures are the lost volumes, in order. -/
theorem failures_named (r : CycleResult) : (failures r).filterMap KeeperIssue.volumeId =
    (r.volumes.filter fun v => Lost v).map VolumeResult.volumeId := by
  have lost : (r.volumes.filterMap volumeFailure).filterMap KeeperIssue.volumeId =
      (r.volumes.filter fun v => Lost v).map VolumeResult.volumeId := by
    rw [List.filterMap_filterMap]
    induction r.volumes with
    | nil => rfl
    | cons v vs ih =>
      rw [List.filterMap_cons, volumeFailure_named]
      by_cases here : Lost v
      · simp [here, ih]
      · simp [here, ih]
  unfold failures
  split
  · rw [List.filterMap_append, lost]
    rfl
  · exact lost

/-- What the report counts as a failure. -/
theorem failures_nonempty (r : CycleResult) : failures r ≠ [] ↔
    truthy r.error ≠ none ∨ r.volumes.filterMap failedEntry ≠ [] := by
  have lost : r.volumes.filterMap volumeFailure = [] ↔ r.volumes.filterMap failedEntry = [] := by
    simp only [List.filterMap_eq_nil_iff, volumeFailure_failed]
  unfold failures
  split
  · rename_i some
    simp [some]
  · rename_i none
    simp [none, lost]

theorem truthy_error (error : Option String) :
    truthy error ≠ none ↔ error ≠ none ∧ error ≠ some "" := by
  cases error with
  | none => simp [truthy]
  | some text => simp [truthy, Option.filter_some]

theorem statusOf_failure (failures warnings : List KeeperIssue) :
    statusOf failures warnings = .failure ↔ failures ≠ [] := by
  unfold statusOf
  cases failures with
  | nil =>
    cases warnings with
    | _ => simp
  | cons failure failures => simp

theorem outcomes_sum (volumes : List VolumeResult) :
    ((outcomes volumes).map Prod.snd).sum = volumes.length := by
  have counted : ∀ (vs : List VolumeResult) (d : Dict String Nat),
      ((vs.foldl (fun outcomes volume =>
        outcomes.update (outcomeKey volume) fun count => count.getD 0 + 1) d).values).sum =
      d.values.sum + vs.length := by
    intro vs
    induction vs with
    | nil => simp
    | cons v vs ih =>
      intro d
      rw [List.foldl_cons, ih, Dict.sum_update_succ, List.length_cons]
      omega
  exact (counted volumes []).trans (Nat.zero_add _)

/-! ## The verdict -/

/-- What is left of the verdict: whether an empty error stopped the cycle. -/
theorem faithful_iff (r : CycleResult) (input : CycleReportInput) (now : Int)
    (rpcUrls others : List String) (ok : r.ok = false ↔ r.failed ≠ [] ∨ r.error ≠ none)
    (failed : r.failed = r.volumes.filterMap failedEntry)
    (stopped : r.error ≠ none → r.volumes = []) :
    Faithful r (cycleReport platform { input with result := r } now)
        (scheduled platform rpcUrls others (cycleReport platform { input with result := r } now)) ↔
      r.error ≠ some "" := by
  have status : (cycleReport platform { input with result := r } now).status = .failure ↔
      failures r ≠ [] := statusOf_failure ..
  have verdict : failures r ≠ [] ↔ (r.error ≠ none ∧ r.error ≠ some "") ∨ r.failed ≠ [] := by
    rw [failures_nonempty, truthy_error, failed]
  constructor
  · intro faithful empty
    have notOk := ok.mpr (.inr (by simp [empty]))
    have lost := verdict.mp (status.mp (faithful.verdict.mpr notOk))
    rw [failed, stopped (by simp [empty])] at lost
    simp [empty] at lost
  · intro nonempty
    have agree : failures r ≠ [] ↔ r.ok = false := by
      rw [verdict, ok]
      tauto
    constructor
    · exact status.trans agree
    · exact status
    · exact failures_named r
    · exact List.suffix_append _ _
    · exact outcomes_sum r.volumes
    · rw [scheduled_isSome]
      exact status.trans agree

/-- A failed cycle is reported as one, and its invocation fails, exactly when what
stopped it, if anything did, was not thrown with an empty message. -/
theorem verdict_iff (client : Client ω) (keccak256 : BitVec 256 → BitVec 256) (par : Parameters)
    (w : ω) (platform : Platform) (input : CycleReportInput) (now : Int)
    (rpcUrls others : List String) :
    let r := (runKeeperCycle client keccak256 par w).1
    let report := cycleReport platform { input with result := r } now
    Faithful r report (scheduled platform rpcUrls others report) ↔
      ∀ e c, enumerate client par (.start par w) = (.error e, c) → message e ≠ "" := by
  intro r report
  have lists := runKeeperCycle_listed client keccak256 par w
  refine (faithful_iff r input now rpcUrls others lists.ok lists.failed lists.error).trans ?_
  constructor
  · intro nonempty e c read empty
    exact nonempty ((unread_result keccak256 read).1.trans (congrArg some empty))
  · intro spoken empty
    generalize read : enumerate client par (.start par w) = reply at spoken
    obtain ⟨answer, c⟩ := reply
    cases answer with
    | error e =>
      have same := (unread_result keccak256 read).1.symm.trans empty
      exact spoken e c rfl (Option.some.inj same)
    | ok found =>
      have none := (read_result keccak256 read).1.error
      rw [none] at empty
      cases empty

/-- A client whose every request is refused without a word. -/
def mute : Client Unit where
  now _ := 0
  getBlockNumber x := (.error (.error ""), x)
  getActiveVolumeCount _ _ x := (.error (.error ""), x)
  getActiveVolumes _ _ _ x := (.error (.error ""), x)
  getVolumes _ _ _ x := (.error (.error ""), x)
  readNonceAndFees x := (.error (.error ""), x)
  simulateContract _ _ x := (.error (.error ""), x)
  estimateContractGas _ _ x := (.error (.error ""), x)
  writeContract _ x := (.error (.error ""), x)
  waitForTransactionReceipt _ _ _ x := (.error (.error ""), x)

/-- A run with one endpoint that works and a funded wallet; the result is filled in. -/
def quietRun : CycleReportInput where
  identity := ⟨"gnosis", some 100, none, none⟩
  cron := none
  scheduledTime := none
  startedAt := 0
  symbol := "xDAI"
  keeper := 0xD
  dryRun := false
  endpoints := [⟨"https://rpc", true, 5, none⟩]
  result := { mode := .all }
  balanceWei := some 1
  minBalanceWei := 0

/-- A cycle that could not even read the block number is reported as a quiet run,
and its invocation succeeds. -/
theorem failed_cycle_reported_ok :
    let platform : Platform := ⟨fun _ => none, toString⟩
    let r := (runKeeperCycle mute id { registry := 0x100 } ()).1
    let report := cycleReport platform { quietRun with result := r } 1
    r.ok = false ∧ r.error = some "" ∧ r.volumes = [] ∧ report.status = .ok ∧
      report.failures = [] ∧ scheduled platform [] [] report = none ∧
      ¬ Faithful r report (scheduled platform [] [] report) := by
  intro platform r report
  have ok : r.ok = false := rfl
  have status : report.status = .ok := rfl
  refine ⟨ok, rfl, rfl, status, rfl, ?_, fun faithful => ?_⟩
  · have quiet : (scheduled platform [] [] report).isSome ≠ true := by
      rw [ne_eq, scheduled_isSome, status]
      nofun
    simpa using quiet
  · have failure := faithful.verdict.mpr ok
    rw [status] at failure
    cases failure

end SwarmVolumes.Guarantees.Verdict
