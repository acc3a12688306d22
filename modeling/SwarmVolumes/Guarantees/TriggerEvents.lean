import SwarmVolumes.Guarantees.ActiveSet
import SwarmVolumes.Guarantees.TriggerIdempotence

/-!
# Trigger events

What `trigger(bytes32[])` says about each ID (ADR-0007). `verdict` decides it
from the state just before the ID's turn; `Told` ties the verdict, the event and
what changed together, both ways. A retirement is decided without looking at
accounts, payers or the token; a skip for payment is decided by prechecks that
must agree with the token, the expiry of a legacy permit included.
-/
namespace SwarmVolumes.Guarantees.TriggerEvents
open Library Source ActiveSet ChargeCorrectness TriggerIdempotence

variable {T P : Type} {d : Deployment T P} {msg : Msg} {w w' x x' y : World T P} {id : Bytes32}
variable {v : Volume} {outpayment : Nat} {reason : RetireReason}

/-- The token would let `payer` pay the registry. -/
def Payable (d : Deployment T P) (x : World T P) (payer : Address) (amount : Nat) : Prop :=
  (d.token.transferFrom x.block.timestamp x.bzz d.address payer d.address amount).map Prod.fst =
    some true

instance (d : Deployment T P) (x : World T P) (payer : Address) (amount : Nat) :
    Decidable (Payable d x payer amount) := inferInstanceAs (Decidable (_ = _))

/-- The checks that retire a volume, in the documented order. -/
def checks (d : Deployment T P) (x : World T P) (v : Volume) (outpayment : Nat) :
    List (RetireReason × Bool) :=
  let b := d.batchOf x.postage v
  [(.batchDied, decide (b.owner = 0 ∨ b.normalisedBalance ≤ outpayment)),
    (.batchOwnerMismatch, decide (b.owner ≠ v.chunkSigner)),
    (.depthChanged, decide (b.depth ≠ v.depth)),
    (.volumeExpired, decide (v.Expired x.block.timestamp))]

def firstFailing (d : Deployment T P) (x : World T P) (v : Volume) (outpayment : Nat) :
    Option RetireReason :=
  ((checks d x v outpayment).find? Prod.snd).map Prod.fst

inductive Verdict where
  | atTarget
  | topsUp
  | retires (reason : RetireReason)
  | skips (reason : SkipReason)
  deriving DecidableEq, Repr

/-- The payer of a volume's owner. -/
def payerOf (x : World T P) (id : Bytes32) : Address :=
  (x.store.accounts (x.store.volumes id).owner).payer

/-- What the batch lacks, for all its chunks. -/
def price (d : Deployment T P) (x : World T P) (id : Bytes32) (outpayment : Nat) : Nat :=
  d.deficit x.postage (x.store.volumes id) outpayment * 2 ^ (x.store.volumes id).depth.toNat

/-- An Active volume that passes every check, of an active account, whose batch is
short of the target. -/
structure Owing (d : Deployment T P) (x : World T P) (id : Bytes32) (outpayment : Nat) : Prop where
  due : Due d x (x.store.volumes id) outpayment
  auth : (x.store.accounts (x.store.volumes id).owner).active = true
  short : d.remaining x.postage (x.store.volumes id) outpayment < d.target x.postage

/-- When each verdict holds of an ID. -/
def Holds (d : Deployment T P) (x : World T P) (id : Bytes32) : Verdict → Prop
  | .atTarget => ∃ outpayment, Due d x (x.store.volumes id) outpayment ∧
      (x.store.accounts (x.store.volumes id).owner).active = true ∧
      d.target x.postage ≤ d.remaining x.postage (x.store.volumes id) outpayment
  | .topsUp => ∃ outpayment, Owing d x id outpayment ∧
      Payable d x (payerOf x id) (price d x id outpayment)
  | .retires reason => (x.store.volumes id).status = .active ∧
      ∃ outpayment, d.stamp.currentTotalOutPayment x.block x.postage = some outpayment ∧
        firstFailing d x (x.store.volumes id) outpayment = some reason
  | .skips .notFound => (x.store.volumes id).status = .none
  | .skips .notActive => (x.store.volumes id).status = .retired
  | .skips .noAuth => ∃ outpayment, Due d x (x.store.volumes id) outpayment ∧
      (x.store.accounts (x.store.volumes id).owner).active = false
  | .skips .paymentFailed => ∃ outpayment, Owing d x id outpayment ∧
      ¬ Payable d x (payerOf x id) (price d x id outpayment)
  | .skips .none => False

/-- The one verdict that can hold. -/
def verdict (d : Deployment T P) (x : World T P) (id : Bytes32) : Verdict :=
  let outpayment := (d.stamp.currentTotalOutPayment x.block x.postage).getD 0
  match (x.store.volumes id).status with
  | .none => .skips .notFound
  | .retired => .skips .notActive
  | .active =>
    match firstFailing d x (x.store.volumes id) outpayment with
    | some reason => .retires reason
    | none =>
      if (x.store.accounts (x.store.volumes id).owner).active = false then .skips .noAuth
      else if d.target x.postage ≤ d.remaining x.postage (x.store.volumes id) outpayment then
        .atTarget
      else if Payable d x (payerOf x id) (price d x id outpayment) then .topsUp
      else .skips .paymentFailed

/-! ## The checks and the verdict -/

theorem find_check {c : Prop} [Decidable c] (rest : List (RetireReason × Bool)) :
    (((reason, decide c) :: rest).find? Prod.snd).map Prod.fst =
      if c then some reason else (rest.find? Prod.snd).map Prod.fst := by
  by_cases failed : c
  · simp [failed]
  · simp [failed]

theorem firstFailing_eq : firstFailing d x v outpayment =
    if (d.batchOf x.postage v).owner = 0 ∨ (d.batchOf x.postage v).normalisedBalance ≤ outpayment
    then some .batchDied
    else if (d.batchOf x.postage v).owner ≠ v.chunkSigner then some .batchOwnerMismatch
    else if (d.batchOf x.postage v).depth ≠ v.depth then some .depthChanged
    else if v.Expired x.block.timestamp then some .volumeExpired
    else none := by
  unfold firstFailing checks
  dsimp only
  rw [find_check, find_check, find_check, find_check]
  rfl

theorem batch_not_dead {read : Nat} (live : Live d x v.batchId read)
    (same : d.stamp.currentTotalOutPayment x.block x.postage = some outpayment) :
    ¬ ((d.batchOf x.postage v).owner = 0 ∨
      (d.batchOf x.postage v).normalisedBalance ≤ outpayment) :=
  live_not_dead live same

theorem edge_failing (read : d.stamp.currentTotalOutPayment x.block x.postage = some outpayment)
    (edge : RetireEdge d x v reason) : firstFailing d x v outpayment = some reason := by
  rw [firstFailing_eq]
  cases edge with
  | batchDied read' dead =>
    obtain rfl := Option.some.inj (read.symm.trans read')
    exact if_pos dead
  | batchOwnerMismatch live owner =>
    rw [if_neg (batch_not_dead live read), if_pos owner]
  | depthChanged live owner depth =>
    rw [if_neg (batch_not_dead live read), if_neg (not_not.mpr owner), if_pos depth]
  | volumeExpired live owner depth expired =>
    rw [if_neg (batch_not_dead live read), if_neg (not_not.mpr owner), if_neg (not_not.mpr depth),
      if_pos expired]

theorem due_failing (due : Due d x v outpayment) : firstFailing d x v outpayment = none := by
  rw [firstFailing_eq, if_neg (batch_not_dead due.toLive due.read), if_neg (not_not.mpr due.owner),
    if_neg (not_not.mpr due.depth), if_neg due.unexpired]

theorem failing_edge (read : d.stamp.currentTotalOutPayment x.block x.postage = some outpayment)
    (failing : firstFailing d x v outpayment = some reason) : RetireEdge d x v reason := by
  rw [firstFailing_eq] at failing
  split at failing
  · rename_i dead
    cases failing
    exact .batchDied read dead
  · rename_i alive
    rw [not_or, Nat.not_le] at alive
    have live : Live d x v.batchId outpayment := ⟨read, alive.1, alive.2⟩
    split at failing
    · rename_i owner
      cases failing
      exact .batchOwnerMismatch live owner
    · rename_i owner
      rw [not_not] at owner
      split at failing
      · rename_i depth
        cases failing
        exact .depthChanged live owner depth
      · rename_i depth
        rw [not_not] at depth
        split at failing
        · rename_i expired
          cases failing
          exact .volumeExpired live owner depth expired
        · cases failing

theorem edge_holds (active : (x.store.volumes id).status = .active)
    (edge : RetireEdge d x (x.store.volumes id) reason) : Holds d x id (.retires reason) := by
  refine ⟨active, ?_⟩
  cases edge with
  | batchDied read dead => exact ⟨_, read, edge_failing read (.batchDied read dead)⟩
  | batchOwnerMismatch live owner =>
    exact ⟨_, live.read, edge_failing live.read (.batchOwnerMismatch live owner)⟩
  | depthChanged live owner depth =>
    exact ⟨_, live.read, edge_failing live.read (.depthChanged live owner depth)⟩
  | volumeExpired live owner depth expired =>
    exact ⟨_, live.read, edge_failing live.read (.volumeExpired live owner depth expired)⟩

theorem holds_verdict {k : Verdict} (holds : Holds d x id k) : verdict d x id = k := by
  unfold verdict
  cases k with
  | atTarget =>
    obtain ⟨outpayment, due, auth, full⟩ := holds
    simp [due.active, due.read, due_failing due, auth, full]
  | topsUp =>
    obtain ⟨outpayment, ⟨due, auth, short⟩, payable⟩ := holds
    simp [due.active, due.read, due_failing due, auth, Nat.not_le.mpr short, payable]
  | retires reason =>
    obtain ⟨active, outpayment, read, failing⟩ := holds
    simp [active, read, failing]
  | skips reason =>
    cases reason with
    | none => exact holds.elim
    | notFound =>
      have unknown : (x.store.volumes id).status = .none := holds
      simp [unknown]
    | notActive =>
      have retired : (x.store.volumes id).status = .retired := holds
      simp [retired]
    | noAuth =>
      obtain ⟨outpayment, due, inactive⟩ := holds
      simp [due.active, due.read, due_failing due, inactive]
    | paymentFailed =>
      obtain ⟨outpayment, ⟨due, auth, short⟩, refused⟩ := holds
      simp [due.active, due.read, due_failing due, auth, Nat.not_le.mpr short, refused]

theorem holds_iff {k k' : Verdict} (holds : Holds d x id k) : Holds d x id k' ↔ k = k' := by
  constructor
  · intro other
    exact (holds_verdict holds).symm.trans (holds_verdict other)
  · rintro rfl
    exact holds

/-! ## The verdict and the event -/

/-- The outcome and the event of each verdict. -/
inductive Announces (id : Bytes32) : TriggerOutcome → Verdict → List Event → Prop
  | silent : Announces id .noDeficit .atTarget []
  | toppedup (amount newBalance : Nat) :
      Announces id .toppedUp .topsUp [.toppedup id amount newBalance]
  | retired (reason : RetireReason) :
      Announces id .retired (.retires reason) [.volumeRetired id reason]
  | skipped (reason : SkipReason) : Announces id .skipped (.skips reason) [.topupSkipped id reason]

variable {outcome : TriggerOutcome} {k : Verdict} {events : List Event}

theorem Announces.silent_iff (announces : Announces id outcome k events) : events = [] ↔ k = .atTarget := by
  cases announces with
  | _ => simp

theorem Announces.toppedup_iff (announces : Announces id outcome k events) :
    (∃ amount newBalance, events = [.toppedup id amount newBalance]) ↔ k = .topsUp := by
  cases announces with
  | _ => simp

theorem Announces.retired_iff (announces : Announces id outcome k events) (reason : RetireReason) :
    events = [.volumeRetired id reason] ↔ k = .retires reason := by
  cases announces with
  | _ => simp

theorem Announces.skipped_iff (announces : Announces id outcome k events) (reason : SkipReason) :
    events = [.topupSkipped id reason] ↔ k = .skips reason := by
  cases announces with
  | _ => simp

/-- The prechecks refuse only what the token refuses. -/
theorem refused_unpayable (standard : d.token.Standard) (expires : d.token.Expires)
    {payer : Address} {deficit depth : Nat} (apart : payer ≠ d.address)
    (refused : canPull d x payer (Word.shl deficit depth) = .ok false) :
    ¬ Payable d x payer (deficit * 2 ^ depth) := by
  intro payable
  obtain ⟨⟨success, t, logs⟩, called, succeeded⟩ := Option.map_eq_some_iff.mp payable
  change success = true at succeeded
  subst succeeded
  have truncated := Word.shl_le deficit depth
  have funded := (standard.moves apart called).1
  have allowed := (standard.spends apart.symm called).1
  rcases canPull_false refused with poor | unapproved | ⟨_, whole, expirations, getter, set, past⟩
  · omega
  · omega
  · rcases expires.transferFrom_current apart.symm getter called whole with zero | current
    · exact set zero
    · exact absurd past (Nat.not_lt.mpr current)

/-- What the trigger steps did, with the verdict that held before them. -/
theorem triggerOne_holds (documented : d.Documented) (expires : d.token.Expires)
    (payers : ExternalPayers d x.store) (ok : triggerOne d msg x id = .ok (outcome, y)) :
    ∃ k events, Holds d x id k ∧ Announces id outcome k events ∧ y.events = x.events ++ events := by
  cases triggerOne_end ok with
  | idle status =>
    refine ⟨_, _, ?_, .skipped _, World.events_emit ..⟩
    cases same : (x.store.volumes id).status with
    | none => exact same
    | active => exact absurd same status
    | retired => exact same
  | @retired reason store active edge retired =>
    exact ⟨.retires reason, _, edge_holds active edge, .retired reason, World.events_emit ..⟩
  | noAuth due inactive =>
    exact ⟨.skips .noAuth, _, ⟨_, due, inactive⟩, .skipped _, World.events_emit ..⟩
  | noDeficit due auth full =>
    exact ⟨.atTarget, _, ⟨_, due, auth, full⟩, .silent, (List.append_nil _).symm⟩
  | paymentFailed due auth short refused =>
    have unpayable := refused_unpayable documented.token.toStandard expires
      (payers _ auth).notRegistry refused
    exact ⟨.skips .paymentFailed, _, ⟨_, ⟨due, auth, short⟩, unpayable⟩, .skipped _,
      World.events_emit ..⟩
  | @toppedUp outpayment amount x₁ x₂ x₃ due auth short shifted payable pulled approved topped =>
    obtain ⟨product, _⟩ := topUp_paid documented shifted due.depth pulled approved topped
    obtain ⟨t, logs, called, _⟩ := pull_success pulled
    rw [product] at called
    have paid : Payable d x (payerOf x id) (price d x id outpayment) :=
      Option.map_eq_some_iff.mpr ⟨_, called, rfl⟩
    have quiet := (topUp_frame topped).2.1.trans
      ((approve_frame approved).2.1.trans (pull_frame pulled).2.1)
    exact ⟨.topsUp, _, ⟨_, ⟨due, auth, short⟩, paid⟩, .toppedup _ _,
      (World.events_emit ..).trans (congrArg (· ++ _) quiet)⟩

/-! ## What a position is told -/

/-- Worlds that agree on what the checks read. -/
structure SameChecks (x x' : World T P) : Prop where
  volumes : x'.store.volumes = x.store.volumes
  ids : x'.store.activeVolumeIds = x.store.activeVolumeIds
  block : x'.block = x.block
  postage : x'.postage = x.postage

theorem SameChecks.holds (same : SameChecks x x') :
    Holds d x' id (.retires reason) ↔ Holds d x id (.retires reason) := by
  simp only [Holds, firstFailing, checks, same.volumes, same.block, same.postage]

/-- `x` to `y` is the turn of `id` and `events` is what it emitted. -/
structure Told (d : Deployment T P) (x : World T P) (id : Bytes32) (events : List Event)
    (y : World T P) : Prop where
  logged : y.events = x.events ++ events
  single : events.length ≤ 1
  silent : events = [] ↔ Holds d x id .atTarget
  toppedup : (∃ amount newBalance, events = [.toppedup id amount newBalance]) ↔ Holds d x id .topsUp
  paid : ∀ amount newBalance, events = [.toppedup id amount newBalance] →
    d.token.balanceOf y.bzz (payerOf x id) + amount = d.token.balanceOf x.bzz (payerOf x id) ∧
    (d.batchOf y.postage (x.store.volumes id)).normalisedBalance = newBalance
  retired : ∀ reason, events = [.volumeRetired id reason] ↔ Holds d x id (.retires reason)
  transition : (∃ reason, events = [.volumeRetired id reason]) ↔
    (x.store.volumes id).status = .active ∧ (y.store.volumes id).status = .retired
  unmoved : ∀ reason, events = [.volumeRetired id reason] → y.bzz = x.bzz
  indifferent : ∀ x', SameChecks x x' → ∀ msg reason, events = [.volumeRetired id reason] ↔
    ∃ y', triggerOne d msg x' id = .ok (.retired, y') ∧
      y'.events = x'.events ++ [.volumeRetired id reason]
  skipped : ∀ reason, events = [.topupSkipped id reason] ↔ Holds d x id (.skips reason)
  unchanged : ∀ reason, events = [.topupSkipped id reason] →
    y.store = x.store ∧ y.bzz = x.bzz ∧ y.postage = x.postage

/-- A top-up took its amount from the payer, and its event names the balance the
batch has now. -/
theorem triggerOne_paid (documented : d.Documented) (payers : ExternalPayers d x.store)
    (ok : triggerOne d msg x id = .ok (.toppedUp, y)) : ∃ amount newBalance,
    y.events = x.events ++ [.toppedup id amount newBalance] ∧
    d.token.balanceOf y.bzz (payerOf x id) + amount = d.token.balanceOf x.bzz (payerOf x id) ∧
    (d.batchOf y.postage (x.store.volumes id)).normalisedBalance = newBalance := by
  obtain ⟨outpayment, read, grown⟩ := triggerOne_batch documented ok
  have settled := triggerOne_settled documented payers ok
  have ended := triggerOne_end ok
  generalize toppedUp : TriggerOutcome.toppedUp = outcome at ended
  cases ended with
  | toppedUp due auth short shifted payable pulled approved topped =>
    obtain rfl := Option.some.inj (read.symm.trans due.read)
    obtain ⟨product, _⟩ := topUp_paid documented shifted due.depth pulled approved topped
    have external := payers _ auth
    have charged := settled.payers _ external.notRegistry external.notPostage
    simp only [TriggerStep.charge, due.read, Option.getD_some, if_true, Option.toList_some] at charged
    have quiet := (topUp_frame topped).2.1.trans
      ((approve_frame approved).2.1.trans (pull_frame pulled).2.1)
    refine ⟨_, _, (World.events_emit ..).trans (congrArg (· ++ _) quiet), ?_, grown⟩
    rw [product]
    simpa [taken, payerOf] using charged
  | _ => cases toppedUp

/-- A retirement moved no BZZ, and its volume had a place in the list. -/
theorem triggerOne_retired (ok : triggerOne d msg x id = .ok (.retired, y)) :
    y.bzz = x.bzz ∧ (x.store.volumes id).status = .active ∧
    (y.store.volumes id).status = .retired ∧
    position x.store id < x.store.activeVolumeIds.length := by
  cases triggerOne_end ok with
  | retired active edge retired =>
    have status := ((Storage.retire_frame retired).2.2.1 id).2
    rw [if_pos rfl] at status
    exact ⟨rfl, active, status, (retire_ids retired).1⟩

/-- Any other outcome leaves storage as it was, a skip everything. -/
theorem triggerOne_kept (other : outcome ≠ .retired)
    (ok : triggerOne d msg x id = .ok (outcome, y)) :
    y.store = x.store ∧ (outcome = .skipped → y.bzz = x.bzz ∧ y.postage = x.postage) := by
  cases triggerOne_end ok with
  | idle status => exact ⟨rfl, fun _ => ⟨rfl, rfl⟩⟩
  | retired active edge retired => exact absurd rfl other
  | noAuth due inactive => exact ⟨rfl, fun _ => ⟨rfl, rfl⟩⟩
  | noDeficit due auth full => exact ⟨rfl, fun _ => ⟨rfl, rfl⟩⟩
  | paymentFailed due auth short refused => exact ⟨rfl, fun _ => ⟨rfl, rfl⟩⟩
  | toppedUp due auth short shifted payable pulled approved topped =>
    exact ⟨(topUp_frame topped).1.trans ((approve_frame approved).1.trans (pull_frame pulled).1),
      nofun⟩

/-- A retirement, by its event: the reason holds, and a place in the list to free is
all else it takes. -/
theorem retires_iff (place : position x.store id < x.store.activeVolumeIds.length) (msg : Msg) :
    Holds d x id (.retires reason) ↔ ∃ y, triggerOne d msg x id = .ok (.retired, y) ∧
      y.events = x.events ++ [.volumeRetired id reason] := by
  constructor
  · rintro ⟨active, outpayment, read, failing⟩
    obtain ⟨store, stored⟩ := Storage.retire_total place
    exact ⟨_, triggerOne_of_edge active (failing_edge read failing) stored, World.events_emit ..⟩
  · rintro ⟨y, ok, logged⟩
    cases triggerOne_end ok with
    | retired active edge retired =>
      rw [World.events_emit] at logged
      obtain ⟨_, rfl⟩ := Event.volumeRetired.inj (List.singleton_inj.mp (List.append_cancel_left logged))
      exact edge_holds active edge

/-- One turn, told by its event. -/
theorem triggerOne_told (documented : d.Documented) (expires : d.token.Expires)
    (payers : ExternalPayers d x.store) (ok : triggerOne d msg x id = .ok (outcome, y)) :
    ∃ events, Told d x id events y := by
  obtain ⟨k, events, holds, announces, logged⟩ := triggerOne_holds documented expires payers ok
  have retired : ∀ reason, events = [.volumeRetired id reason] ↔ Holds d x id (.retires reason) :=
    fun reason => (announces.retired_iff reason).trans (holds_iff holds).symm
  have retires : ∀ {reason}, events = [.volumeRetired id reason] → outcome = .retired := by
    intro reason same
    cases announces with
    | retired => rfl
    | _ => cases same
  refine ⟨events, ?_⟩
  constructor
  case logged => exact logged
  case single =>
    cases announces with
    | _ => simp
  case silent => exact announces.silent_iff.trans (holds_iff holds).symm
  case toppedup => exact announces.toppedup_iff.trans (holds_iff holds).symm
  case paid =>
    intro amount newBalance same
    have toppedUp : outcome = .toppedUp := by
      cases announces with
      | toppedup => rfl
      | _ => cases same
    subst toppedUp
    obtain ⟨amount', newBalance', logged', paid⟩ := triggerOne_paid documented payers ok
    rw [logged, same] at logged'
    obtain ⟨_, rfl, rfl⟩ :=
      Event.toppedup.inj (List.singleton_inj.mp (List.append_cancel_left logged'))
    exact paid
  case retired => exact retired
  case transition =>
    constructor
    · rintro ⟨reason, same⟩
      obtain rfl := retires same
      obtain ⟨_, active, gone, _⟩ := triggerOne_retired ok
      exact ⟨active, gone⟩
    · rintro ⟨active, gone⟩
      cases announces with
      | retired reason => exact ⟨reason, rfl⟩
      | _ =>
        rw [(triggerOne_kept (by decide) ok).1, active] at gone
        cases gone
  case unmoved =>
    intro reason same
    obtain rfl := retires same
    exact (triggerOne_retired ok).1
  case indifferent =>
    intro x' same msg' reason
    constructor
    · intro told
      obtain rfl := retires told
      have place := (triggerOne_retired ok).2.2.2
      rw [position, ← same.volumes, ← same.ids] at place
      exact (retires_iff place msg').mp (same.holds.mpr ((retired reason).mp told))
    · rintro ⟨y', ok', logged'⟩
      have place := (triggerOne_retired ok').2.2.2
      exact (retired reason).mpr (same.holds.mp ((retires_iff place msg').mpr ⟨y', ok', logged'⟩))
  case skipped => exact fun reason => (announces.skipped_iff reason).trans (holds_iff holds).symm
  case unchanged =>
    intro reason same
    have skipped : outcome = .skipped := by
      cases announces with
      | skipped => rfl
      | _ => cases same
    subst skipped
    obtain ⟨store, rest⟩ := triggerOne_kept (by decide) ok
    exact ⟨store, rest rfl⟩

/-- The turns of a call, one after another. -/
theorem triggerMany_told (documented : d.Documented) (expires : d.token.Expires)
    (payers : ExternalPayers d x.store) {ids : List Bytes32}
    (ok : triggerMany d msg x ids = .ok y) : ∃ turns : List (Bytes32 × List Event),
      Trace (fun a turn b => Told d a turn.1 turn.2 b) x turns y ∧ turns.map Prod.fst = ids ∧
      y.events = x.events ++ (turns.map Prod.snd).flatten := by
  induction ids generalizing x with
  | nil =>
    cases ok
    exact ⟨[], .nil, rfl, (List.append_nil _).symm⟩
  | cons id ids ih =>
    obtain ⟨mid, first, rest⟩ := bind_success ok
    obtain ⟨outcome, one⟩ := trigger_success first
    obtain ⟨events, told⟩ := triggerOne_told documented expires payers one
    have kept := (triggerOne_later documented payers one).accounts
    obtain ⟨turns, trace, listed, logged⟩ := ih (fun o => kept ▸ payers o) rest
    refine ⟨(id, events) :: turns, .cons told trace, congrArg (id :: ·) listed, ?_⟩
    rw [logged, told.logged, List.append_assoc]
    rfl

variable {outside : World T P → World T P → Prop} {w₀ : World T P}

/-- Whatever was called before, a `trigger` that does not revert takes its IDs one
after another, and what it emits about each is the one event that tells what
happened to it, judged in the state the turn started from. -/
theorem trigger_tells_each (documented : d.Documented) (expires : d.token.Expires)
    (deployed : Deployed d w₀) (reachable : Reachable d outside w₀ w) {ids : List Bytes32}
    {value : Option Bytes32} (success : execute d msg w (.triggerMany ids) = .ok (value, w')) :
    ∃ turns : List (Bytes32 × List Event),
      Trace (fun a turn b => Told d a turn.1 turn.2 b) w turns w' ∧ turns.map Prod.fst = ids ∧
      w'.events = w.events ++ (turns.map Prod.snd).flatten := by
  obtain ⟨es, w₁, run, same, _⟩ := reachable
  have payers : ExternalPayers d w.store := by
    rw [same.store]
    exact run_payers deployed run
  obtain ⟨left, ok, same⟩ := map_success success
  cases same
  exact triggerMany_told documented expires payers ok

/-- The sample after its two volumes came into being. -/
theorem trigger_tells_each_sample :
    ∃ value w' turns, execute Sample.deployment ⟨0xD, 6⟩ (play Sample.deployment Sample.genesis
        (Sample.calls.take 5)).2 (.triggerMany [Sample.first, Sample.second, Sample.first]) =
        .ok (value, w') ∧
      Trace (fun a turn b => Told Sample.deployment a turn.1 turn.2 b)
        (play Sample.deployment Sample.genesis (Sample.calls.take 5)).2 turns w' ∧
      turns.map Prod.fst = [Sample.first, Sample.second, Sample.first] := by
  obtain ⟨⟨value, w'⟩, success⟩ : ∃ r, execute Sample.deployment ⟨0xD, 6⟩ (play Sample.deployment
      Sample.genesis (Sample.calls.take 5)).2
      (.triggerMany [Sample.first, Sample.second, Sample.first]) = .ok r :=
    success_of_isOk (by decide)
  have reachable : Reachable Sample.deployment anything Sample.genesis
      (play Sample.deployment Sample.genesis (Sample.calls.take 5)).2 :=
    ⟨_, _, play_run anything_refl (by decide), .refl _, trivial⟩
  obtain ⟨turns, trace, listed, _⟩ := trigger_tells_each Sample.documented Reference.bzz_expires
    Sample.deployed reachable success
  exact ⟨value, w', turns, success, trace, listed⟩

end SwarmVolumes.Guarantees.TriggerEvents
