import SwarmVolumes.Guarantees.Enumeration
import SwarmVolumes.Guarantees.TriggerIdempotence
import Mathlib.Algebra.Order.BigOperators.Group.Finset

/-!
# Order independence of a batched trigger

What a batched trigger does to a world is a function of the set of IDs it names:
which volumes it retires and why (`Progress`), and, where every payer can pay for
everything, which batches it raises (`Funding`). Both are invariants of the loop
that speak of the IDs processed so far only as a set, so any two orders that go
through end alike.
-/
namespace SwarmVolumes.Guarantees.OrderIndependence
open Library Library.Erc20 Source ActiveSet ChargeCorrectness TriggerIdempotence

variable {T P : Type} {d : Deployment T P} {msg : Msg} {w x y u : World T P}

/-! ## What decides a retirement -/

/-- `x` follows `w` in the same block, and agrees with it on all that a retirement
depends on but the volumes' statuses. -/
structure Alike (d : Deployment T P) (w x : World T P) : Prop where
  block : x.block = w.block
  accounts : x.store.accounts = w.store.accounts
  written : ∀ id, (x.store.volumes id).written = (w.store.volumes id).written
  price : d.stamp.lastPrice x.postage = d.stamp.lastPrice w.postage
  outpayment : d.stamp.currentTotalOutPayment w.block x.postage =
    d.stamp.currentTotalOutPayment w.block w.postage
  owner : ∀ b, (d.stamp.batches x.postage b).owner = (d.stamp.batches w.postage b).owner
  depth : ∀ b, (d.stamp.batches x.postage b).depth = (d.stamp.batches w.postage b).depth
  alive : ∀ b outpayment, d.stamp.currentTotalOutPayment w.block w.postage = some outpayment →
    (outpayment < (d.stamp.batches x.postage b).normalisedBalance ↔
      outpayment < (d.stamp.batches w.postage b).normalisedBalance)

theorem Alike.refl (w : World T P) : Alike d w w :=
  ⟨rfl, rfl, fun _ => rfl, rfl, rfl, fun _ => rfl, fun _ => rfl, fun _ _ _ => .rfl⟩

theorem Alike.symm (alike : Alike d w x) : Alike d x w where
  block := alike.block.symm
  accounts := alike.accounts.symm
  written id := (alike.written id).symm
  price := alike.price.symm
  outpayment := by rw [alike.block, alike.outpayment]
  owner b := (alike.owner b).symm
  depth b := (alike.depth b).symm
  alive b outpayment read := by
    rw [alike.block, alike.outpayment] at read
    exact (alike.alive b outpayment read).symm

theorem Alike.trans (first : Alike d w x) (second : Alike d x y) : Alike d w y where
  block := second.block.trans first.block
  accounts := second.accounts.trans first.accounts
  written id := (second.written id).trans (first.written id)
  price := second.price.trans first.price
  outpayment := by
    have later := second.outpayment
    rw [first.block] at later
    exact later.trans first.outpayment
  owner b := (second.owner b).trans (first.owner b)
  depth b := (second.depth b).trans (first.depth b)
  alive b outpayment read := by
    have later := second.alive b outpayment
    rw [first.block, first.outpayment] at later
    exact (later read).trans (first.alive b outpayment read)

section
variable {v v' : Volume} {outpayment : Nat}

theorem Alike.live (alike : Alike d w x) {b : Bytes32} (live : Live d x b outpayment) :
    Live d w b outpayment := by
  have read := live.read
  rw [alike.block, alike.outpayment] at read
  exact ⟨read, alike.owner b ▸ live.present, (alike.alive b outpayment read).mp live.alive⟩

theorem edge_congr (written : v.written = v'.written) {reason : RetireReason}
    (edge : RetireEdge d x v reason) : RetireEdge d x v' reason := by
  obtain ⟨owner, chunkSigner, batchId, createdAt, ttlExpiry, depth, status, activeIndex⟩ := v
  obtain ⟨_, _, _, _, _, _, status', activeIndex'⟩ := v'
  cases written
  cases edge with
  | batchDied read dead => exact .batchDied read dead
  | batchOwnerMismatch live owner => exact .batchOwnerMismatch live owner
  | depthChanged live owner depth => exact .depthChanged live owner depth
  | volumeExpired live owner depth expired => exact .volumeExpired live owner depth expired

/-- A retirement edge at `x` is one at `w`. -/
theorem Alike.edge (alike : Alike d w x) {reason : RetireReason} (edge : RetireEdge d x v reason) :
    RetireEdge d w v reason := by
  have owner := alike.owner v.batchId
  have depth := alike.depth v.batchId
  cases edge with
  | batchDied read dead =>
    rw [alike.block, alike.outpayment] at read
    refine .batchDied read (dead.imp (owner ▸ ·) fun dead => ?_)
    exact Nat.not_lt.mp fun lives => Nat.not_lt.mpr dead ((alike.alive _ _ read).mpr lives)
  | batchOwnerMismatch live mismatch => exact .batchOwnerMismatch (alike.live live) (owner ▸ mismatch)
  | depthChanged live signer changed =>
    exact .depthChanged (alike.live live) (owner ▸ signer) (depth ▸ changed)
  | volumeExpired live signer same expired =>
    exact .volumeExpired (alike.live live) (owner ▸ signer) (depth ▸ same) (alike.block ▸ expired)

theorem Alike.edge_iff (alike : Alike d w x) {id : Bytes32} {reason : RetireReason} :
    RetireEdge d x (x.store.volumes id) reason ↔ RetireEdge d w (w.store.volumes id) reason :=
  ⟨fun edge => edge_congr (alike.written id) (alike.edge edge),
    fun edge => edge_congr (alike.written id).symm (alike.symm.edge edge)⟩

theorem due_congr (written : v.written = v'.written) (active : v'.status = .active)
    (due : Due d x v outpayment) : Due d x v' outpayment := by
  obtain ⟨owner, chunkSigner, batchId, createdAt, ttlExpiry, depth, status, activeIndex⟩ := v
  obtain ⟨_, _, _, _, _, _, status', activeIndex'⟩ := v'
  cases written
  exact ⟨due.toLive, active, due.owner, due.depth, due.unexpired⟩

theorem Alike.due (alike : Alike d w x) (due : Due d x v outpayment) : Due d w v outpayment where
  toLive := alike.live due.toLive
  active := due.active
  owner := (alike.owner v.batchId).symm.trans due.owner
  depth := (alike.depth v.batchId).symm.trans due.depth
  unexpired := alike.block ▸ due.unexpired

end

/-- A trigger step revives no batch and starves none. -/
theorem triggerOne_alike (documented : d.Documented) (payers : ExternalPayers d x.store)
    {id : Bytes32} {outcome : TriggerOutcome} (ok : triggerOne d msg x id = .ok (outcome, y)) :
    Alike d x y := by
  obtain ⟨block, accounts, written, _, _, postage⟩ := triggerOne_later documented payers ok
  refine ⟨block, accounts, written, postage.price, postage.outpayment, postage.owner, postage.depth,
    fun b outpayment read => ?_⟩
  rcases (triggerOne_outside documented ok).2 with ⟨_, same, _⟩ | ⟨_, outpayment', due, raised⟩
  · rw [same]
  · obtain rfl := Option.some.inj (read.symm.trans due.read)
    by_cases here : b = (x.store.volumes id).batchId
    · subst here
      have alive := due.alive
      rw [raised.balance]
      omega
    · rw [raised.others b here]

/-! ## Statuses and retire reasons -/

/-- `id` is Active at `w` and a trigger retires it, for this reason. -/
def Retires (d : Deployment T P) (w : World T P) (id : Bytes32) (reason : RetireReason) : Prop :=
  (w.store.volumes id).status = .active ∧ RetireEdge d w (w.store.volumes id) reason

/-- The loop, started at `w`, has processed the IDs `done` and is at `x`. -/
structure Progress (d : Deployment T P) (w : World T P) (done : List Bytes32) (x : World T P) :
    Prop where
  alike : Alike d w x
  retired : ∀ id reason, id ∈ done → Retires d w id reason → (x.store.volumes id).status = .retired
  kept : ∀ id, (∀ reason, id ∈ done → ¬ Retires d w id reason) →
    (x.store.volumes id).status = (w.store.volumes id).status
  events : ∃ added, x.events = w.events ++ added ∧
    ∀ id reason, .volumeRetired id reason ∈ added ↔ id ∈ done ∧ Retires d w id reason

theorem Progress.start (w : World T P) : Progress d w [] w :=
  ⟨.refl w, by simp, fun _ _ => rfl, [], by simp, by simp⟩

/-- A volume found Active was Active at the start, and no step so far retired it. -/
theorem Progress.active {done : List Bytes32} (progress : Progress d w done x) {id : Bytes32}
    (active : (x.store.volumes id).status = .active) :
    (w.store.volumes id).status = .active ∧ ∀ reason, id ∈ done → ¬ Retires d w id reason := by
  have spared : ∀ reason, id ∈ done → ¬ Retires d w id reason := by
    intro reason member retires
    rw [progress.retired id reason member retires] at active
    cases active
  exact ⟨(progress.kept id spared).symm.trans active, spared⟩

/-- A step that does not retire its volume, and had no edge to. -/
theorem Progress.stay {done : List Bytes32} (progress : Progress d w done x) {id : Bytes32}
    (alike : Alike d x y) (statuses : ∀ other, (y.store.volumes other).status =
      (x.store.volumes other).status)
    (none : ∀ reason, Retires d w id reason → id ∈ done) {more : List Event}
    (events : y.events = x.events ++ more) (quiet : ∀ other reason, .volumeRetired other reason ∉ more) :
    Progress d w (done ++ [id]) y := by
  have members : ∀ other reason, other ∈ done ++ [id] → Retires d w other reason → other ∈ done := by
    intro other reason member retires
    rcases List.mem_append.mp member with old | new
    · exact old
    · obtain rfl := List.mem_singleton.mp new
      exact none reason retires
  refine ⟨progress.alike.trans alike, fun other reason member retires => ?_, fun other spared => ?_, ?_⟩
  · rw [statuses]
    exact progress.retired other reason (members other reason member retires) retires
  · rw [statuses]
    exact progress.kept other fun reason member => spared reason (List.mem_append_left _ member)
  · obtain ⟨added, earlier, listed⟩ := progress.events
    refine ⟨added ++ more, by rw [events, earlier, List.append_assoc], fun other reason => ?_⟩
    rw [List.mem_append, listed]
    constructor
    · rintro (old | new)
      · exact ⟨List.mem_append_left _ old.1, old.2⟩
      · exact absurd new (quiet other reason)
    · rintro ⟨member, retires⟩
      exact .inl ⟨members other reason member retires, retires⟩

theorem Progress.step (documented : d.Documented) (payers : ExternalPayers d x.store)
    {done : List Bytes32} (progress : Progress d w done x) {id : Bytes32} {outcome : TriggerOutcome}
    (ok : triggerOne d msg x id = .ok (outcome, y)) : Progress d w (done ++ [id]) y := by
  have alike := triggerOne_alike documented payers ok
  have due : ∀ {outpayment}, Due d x (x.store.volumes id) outpayment →
      ∀ reason, Retires d w id reason → id ∈ done := fun due reason retires =>
    absurd (progress.alike.edge_iff.mpr retires.2) (no_edge due)
  cases triggerOne_end ok with
  | idle status =>
    refine progress.stay alike (fun _ => rfl) (fun reason retires => ?_) (World.events_emit ..) (by simp)
    by_contra fresh
    refine status ((progress.kept id fun _ member => absurd member fresh).trans retires.1)
  | @retired reason store active edge gone =>
    obtain ⟨started, spared⟩ := progress.active active
    have retires : Retires d w id reason := ⟨started, progress.alike.edge_iff.mp edge⟩
    have statuses : ∀ other, (store.volumes other).status =
        if other = id then .retired else (x.store.volumes other).status :=
      fun other => ((Storage.retire_frame gone).2.2.1 other).2
    refine ⟨progress.alike.trans alike, fun other reason member retires => ?_,
      fun other spared => ?_, ?_⟩
    · rw [World.emit_store, statuses]
      split
      · rfl
      · rename_i different
        have old : other ∈ done := by simpa [different] using member
        exact progress.retired other reason old retires
    · have different : other ≠ id := by
        rintro rfl
        exact spared reason (by simp) retires
      rw [World.emit_store, statuses, if_neg different]
      exact progress.kept other fun reason member => spared reason (List.mem_append_left _ member)
    · obtain ⟨added, earlier, listed⟩ := progress.events
      refine ⟨added ++ [.volumeRetired id reason], ?_, fun other reason' => ?_⟩
      · rw [World.events_emit, ← List.append_assoc, ← earlier]
        rfl
      · rw [List.mem_append, List.mem_append, listed, List.mem_singleton, List.mem_singleton]
        constructor
        · rintro (old | same)
          · exact ⟨.inl old.1, old.2⟩
          · cases same
            exact ⟨.inr rfl, retires⟩
        · rintro ⟨old | rfl, other⟩
          · exact .inl ⟨old, other⟩
          · right
            rw [edge_unique other.2 retires.2]
  | noAuth found inactive =>
    exact progress.stay alike (fun _ => rfl) (due found) (World.events_emit ..) (by simp)
  | noDeficit found auth full =>
    exact progress.stay alike (fun _ => rfl) (due found) (List.append_nil _).symm (by simp)
  | paymentFailed found auth short refused =>
    exact progress.stay alike (fun _ => rfl) (due found) (World.events_emit ..) (by simp)
  | @toppedUp _ _ w₁ w₂ w₃ found auth short shifted payable pulled approved topped =>
    have store : w₃.store = x.store :=
      (topUp_frame topped).1.trans ((approve_frame approved).1.trans (pull_frame pulled).1)
    have quiet := (topUp_frame topped).2.1.trans
      ((approve_frame approved).2.1.trans (pull_frame pulled).2.1)
    refine progress.stay alike (fun other => ?_) (due found)
      ((World.events_emit ..).trans (congrArg (· ++ _) quiet)) (by simp)
    rw [World.emit_store, store]

/-- The loop runs to its end through such steps. -/
theorem triggerMany_progress (documented : d.Documented) (payers : ExternalPayers d w.store)
    {done ids : List Bytes32} (progress : Progress d w done x)
    (ok : triggerMany d msg x ids = .ok u) : Progress d w (done ++ ids) u := by
  induction ids generalizing done x with
  | nil =>
    cases ok
    rwa [List.append_nil]
  | cons id ids ih =>
    obtain ⟨mid, first, rest⟩ := bind_success ok
    obtain ⟨outcome, one⟩ := trigger_success first
    have kept : ExternalPayers d x.store := by
      rw [ExternalPayers, progress.alike.accounts]
      exact payers
    have next := ih (progress.step documented kept one) rest
    rwa [List.append_assoc, List.singleton_append] at next

/-! ## Batches and payments -/

/-- `currentTotalOutPayment`. -/
def outpaid (d : Deployment T P) (w : World T P) : Nat :=
  (d.stamp.currentTotalOutPayment w.block w.postage).getD 0

/-- What a batch lacks for each chunk. -/
def lack (d : Deployment T P) (w : World T P) (b : Bytes32) : Nat :=
  d.target w.postage - ((d.stamp.batches w.postage b).normalisedBalance - outpaid d w)

/-- What a batch lacks, in BZZ. -/
def cost (d : Deployment T P) (w : World T P) (b : Bytes32) : Nat :=
  batchCost (lack d w b) (d.stamp.batches w.postage b).depth

/-- The live batches behind the Active volumes among `ids`. -/
def backing (d : Deployment T P) (w : World T P) (ids : List Bytes32) : Finset Bytes32 :=
  ((ids.filter fun id => (w.store.volumes id).status = .active).map
    fun id => (w.store.volumes id).batchId).toFinset.filter fun b =>
      (d.stamp.batches w.postage b).owner ≠ 0 ∧
        outpaid d w < (d.stamp.batches w.postage b).normalisedBalance

/-- What raising each of them to the target costs. -/
def demand (d : Deployment T P) (w : World T P) (ids : List Bytes32) : Nat :=
  ∑ b ∈ backing d w ids, cost d w b

/-- A trigger of `id` at `w` finds a deficit to pay. -/
def Owes (d : Deployment T P) (w : World T P) (id : Bytes32) : Prop :=
  ∃ outpayment, Due d w (w.store.volumes id) outpayment ∧
    (w.store.accounts (w.store.volumes id).owner).active = true ∧
    d.remaining w.postage (w.store.volumes id) outpayment < d.target w.postage

open Classical in
/-- The batches that are to be raised when `ids` are triggered. -/
noncomputable def owed (d : Deployment T P) (w : World T P) (ids : List Bytes32) : Finset Bytes32 :=
  ((ids.filter fun id => Owes d w id).map fun id => (w.store.volumes id).batchId).toFinset

theorem mem_owed {ids : List Bytes32} {b : Bytes32} :
    b ∈ owed d w ids ↔ ∃ id ∈ ids, Owes d w id ∧ (w.store.volumes id).batchId = b := by
  simp [owed, and_assoc]

theorem owed_snoc {ids : List Bytes32} {id b : Bytes32} : b ∈ owed d w (ids ++ [id]) ↔
    b ∈ owed d w ids ∨ Owes d w id ∧ (w.store.volumes id).batchId = b := by
  simp only [mem_owed, List.mem_append, List.mem_singleton]
  constructor
  · rintro ⟨other, old | rfl, owes⟩
    · exact .inl ⟨other, old, owes⟩
    · exact .inr owes
  · rintro (⟨other, old, owes⟩ | owes)
    · exact ⟨other, .inl old, owes⟩
    · exact ⟨id, .inr rfl, owes⟩

theorem owed_perm {ids ids' : List Bytes32} (perm : ids.Perm ids') : owed d w ids = owed d w ids' := by
  ext b
  simp only [mem_owed, perm.mem_iff]

theorem outpaid_of_read {outpayment : Nat}
    (read : d.stamp.currentTotalOutPayment w.block w.postage = some outpayment) :
    outpaid d w = outpayment := by
  rw [outpaid, read]
  rfl

theorem Owes.backing {ids : List Bytes32} {id : Bytes32} (owes : Owes d w id) (member : id ∈ ids) :
    (w.store.volumes id).batchId ∈ backing d w ids := by
  obtain ⟨outpayment, due, _⟩ := owes
  simp only [OrderIndependence.backing, Finset.mem_filter, List.mem_toFinset, List.mem_map,
    List.mem_filter, decide_eq_true_eq]
  rw [outpaid_of_read due.read]
  exact ⟨⟨id, ⟨member, due.active⟩, rfl⟩, due.present, due.alive⟩

theorem owed_backing {ids done : List Bytes32} (within : done ⊆ ids) : owed d w done ⊆ backing d w ids := by
  intro b member
  obtain ⟨id, listed, owes, rfl⟩ := mem_owed.mp member
  exact owes.backing (within listed)

/-- What the loop has done to batches and balances after the IDs `done`. -/
structure Funding (d : Deployment T P) (w : World T P) (done : List Bytes32) (x : World T P) :
    Prop where
  later : Later d w x
  batches : ∀ b, (d.stamp.batches x.postage b).normalisedBalance =
    (d.stamp.batches w.postage b).normalisedBalance + if b ∈ owed d w done then lack d w b else 0
  received : d.token.balanceOf x.bzz d.postage =
    d.token.balanceOf w.bzz d.postage + ∑ b ∈ owed d w done, cost d w b
  balance : ∀ p, External d p →
    d.token.balanceOf w.bzz p ≤ d.token.balanceOf x.bzz p + ∑ b ∈ owed d w done, cost d w b
  allowance : ∀ p, External d p → d.token.allowance w.bzz p d.address = Word.unlimited ∨
    d.token.allowance w.bzz p d.address ≤
      d.token.allowance x.bzz p d.address + ∑ b ∈ owed d w done, cost d w b

theorem owed_nil : owed d w [] = ∅ := rfl

theorem Funding.start (w : World T P) : Funding d w [] w := by
  refine ⟨.refl w, fun b => ?_, ?_, fun p _ => ?_, fun p _ => .inr ?_⟩
  all_goals simp [owed_nil]

/-- A payer that could pay for everything can pay for what is left. -/
theorem Funding.payable {done : List Bytes32} (funding : Funding d w done x) {payer : Address}
    (external : External d payer) (word : d.token.allowance w.bzz payer d.address < Word.modulus)
    {amount whole : Nat} (payable : canPull d w payer whole = .ok true)
    (left : amount + ∑ b ∈ owed d w done, cost d w b ≤ whole) :
    canPull d x payer amount ≠ .ok false := by
  intro refused
  obtain ⟨funded, allowed, current⟩ := canPull_true payable
  have balance := funding.balance payer external
  have poorer := funding.later.payers payer external
  rcases canPull_false refused with less | less | ⟨flag, unlimited, expirations, getter, set, past⟩
  · omega
  · rcases funding.allowance payer external with endless | counted
    · rw [poorer.unlimited endless] at less
      omega
    · omega
  · have endless : d.token.allowance w.bzz payer d.address = Word.unlimited := by
      have shrunk := poorer.allowance
      rw [unlimited] at shrunk
      unfold Word.unlimited at shrunk ⊢
      omega
    rw [poorer.expiry expirations getter] at set past
    rw [funding.later.block] at past
    rcases current flag endless expirations getter with zero | late
    · exact set zero
    · omega

/-- A step that pays nothing, and owed nothing that is not yet paid. -/
theorem Funding.stay {done : List Bytes32} (funding : Funding d w done x) {id : Bytes32}
    (later : Later d x y) (bzz : y.bzz = x.bzz) (postage : y.postage = x.postage)
    (none : Owes d w id → (w.store.volumes id).batchId ∈ owed d w done) :
    Funding d w (done ++ [id]) y := by
  have same : owed d w (done ++ [id]) = owed d w done := by
    ext b
    rw [owed_snoc]
    refine ⟨?_, .inl⟩
    rintro (old | ⟨owes, rfl⟩)
    · exact old
    · exact none owes
  refine ⟨funding.later.trans later, ?_, ?_, ?_, ?_⟩
  · rw [same, postage]
    exact funding.batches
  · rw [same, bzz]
    exact funding.received
  · rw [same, bzz]
    exact funding.balance
  · rw [same, bzz]
    exact funding.allowance

section
variable {ids done : List Bytes32} {id : Bytes32} {outpayment : Nat}

/-- A volume that owes is still Active when its turn comes. -/
theorem Progress.owes_active (progress : Progress d w done x) (owes : Owes d w id) :
    (x.store.volumes id).status = .active := by
  obtain ⟨_, due, _⟩ := owes
  rw [progress.kept id fun reason _ retires => no_edge due retires.2]
  exact due.active

/-- A batch that a step finds short is one its volume owes for, not raised so far. -/
theorem Funding.short (funding : Funding d w done x) (progress : Progress d w done x)
    (due : Due d x (x.store.volumes id) outpayment)
    (auth : (x.store.accounts (x.store.volumes id).owner).active = true)
    (short : d.remaining x.postage (x.store.volumes id) outpayment < d.target x.postage) :
    Owes d w id ∧ (w.store.volumes id).batchId ∉ owed d w done ∧
      d.deficit x.postage (x.store.volumes id) outpayment = lack d w (w.store.volumes id).batchId := by
  have written := progress.alike.written id
  have batch : (x.store.volumes id).batchId = (w.store.volumes id).batchId := congrArg (·.2.2.1) written
  have owner : (x.store.volumes id).owner = (w.store.volumes id).owner := congrArg (·.1) written
  have started := due_congr written (progress.active due.active).1 (progress.alike.due due)
  have target : d.target x.postage = d.target w.postage := funding.later.postage.target
  have alive := started.alive
  have read := outpaid_of_read started.read
  have balance := funding.batches (w.store.volumes id).batchId
  unfold Deployment.remaining Deployment.batchOf at short
  rw [batch, target] at short
  have fresh : (w.store.volumes id).batchId ∉ owed d w done := by
    intro raised
    rw [if_pos raised, lack, read] at balance
    omega
  rw [if_neg fresh, Nat.add_zero] at balance
  rw [balance] at short
  refine ⟨⟨outpayment, started, ?_, short⟩, fresh, ?_⟩
  · rw [← owner, ← funding.later.accounts]
    exact auth
  · unfold Deployment.deficit Deployment.remaining Deployment.batchOf lack
    rw [batch, target, balance, read]

/-- Together with what is paid, what a volume owes is within the demand. -/
theorem owed_room (within : done ++ [id] ⊆ ids) (owes : Owes d w id)
    (fresh : (w.store.volumes id).batchId ∉ owed d w done) :
    cost d w (w.store.volumes id).batchId + ∑ b ∈ owed d w done, cost d w b ≤ demand d w ids := by
  rw [← Finset.sum_insert fresh, demand]
  refine Finset.sum_le_sum_of_subset (Finset.insert_subset_iff.mpr ⟨owes.backing (within (by simp)), ?_⟩)
  exact owed_backing fun other member => within (List.mem_append_left _ member)

/-- A batch that a step finds at target is raised, if its volume owed for it. -/
theorem Funding.full (funding : Funding d w done x) (progress : Progress d w done x)
    (due : Due d x (x.store.volumes id) outpayment)
    (full : d.target x.postage ≤ d.remaining x.postage (x.store.volumes id) outpayment)
    (owes : Owes d w id) : (w.store.volumes id).batchId ∈ owed d w done := by
  obtain ⟨_, started, _, short⟩ := owes
  have batch : (x.store.volumes id).batchId = (w.store.volumes id).batchId :=
    congrArg (·.2.2.1) (progress.alike.written id)
  have target : d.target x.postage = d.target w.postage := funding.later.postage.target
  obtain rfl := Option.some.inj (started.read.symm.trans (progress.alike.live due.toLive).read)
  by_contra fresh
  have balance := funding.batches (w.store.volumes id).batchId
  unfold Deployment.remaining Deployment.batchOf at full short
  rw [if_neg fresh, Nat.add_zero] at balance
  rw [batch, target, balance] at full
  omega

/-- A step that raises the batch its volume owes for. -/
theorem Funding.raise (documented : d.Documented) (funding : Funding d w done x)
    (later : Later d x y) {payer : Address} {b : Bytes32} (external : External d payer)
    (owes : Owes d w id) (rides : (w.store.volumes id).batchId = b) (fresh : b ∉ owed d w done)
    (raised : Raised d x.postage y.postage b (lack d w b)) (paid : Paid d x y payer (cost d w b))
    (finite : cost d w b ≠ Word.unlimited) : Funding d w (done ++ [id]) y := by
  have grown : owed d w (done ++ [id]) = insert b (owed d w done) := by
    ext other
    rw [owed_snoc, Finset.mem_insert, or_comm]
    refine or_congr_left ⟨fun new => new.2.symm.trans rides, fun same => ⟨owes, rides.trans same.symm⟩⟩
  have sum : ∑ b ∈ owed d w (done ++ [id]), cost d w b =
      cost d w b + ∑ b ∈ owed d w done, cost d w b := by
    rw [grown, Finset.sum_insert fresh]
  obtain ⟨funded, fromPayer, toPostage, others, _⟩ :=
    paid.passed.settled documented.token.toStandard external.notRegistry documented.apart
      external.notPostage finite
  refine ⟨funding.later.trans later, fun other => ?_, ?_, fun p outside => ?_, fun p outside => ?_⟩
  · have before := funding.batches other
    rw [grown]
    by_cases here : other = b
    · subst here
      rw [if_neg fresh, Nat.add_zero] at before
      rw [raised.balance, before, if_pos (Finset.mem_insert_self ..)]
    · have same : other ∈ insert b (owed d w done) ↔ other ∈ owed d w done := by simp [here]
      rw [raised.others other here, before, if_congr same rfl rfl]
  · rw [toPostage, funding.received, sum]
    omega
  · have before := funding.balance p outside
    rw [sum]
    by_cases same : p = payer
    · subst same
      omega
    · rw [others p same outside.notPostage]
      omega
  · refine (funding.allowance p outside).imp_right fun before => ?_
    have after := paid.passed.allowances documented.token.toStandard external.notRegistry
      documented.apart p d.address
    rw [if_neg fun both => outside.notRegistry both.1] at after
    rw [after, sum]
    split
    · rename_i both
      obtain ⟨rfl, _⟩ := both
      unfold spent
      split
      · omega
      · omega
    · omega

/-- One step. A payment that is due cannot be refused, because what the payer can
pay covers everything that is owed and not yet paid. -/
theorem Funding.step (documented : d.Documented) (payers : ExternalPayers d x.store)
    (words : ∀ p, d.token.allowance w.bzz p d.address < Word.modulus)
    (within : done ++ [id] ⊆ ids) (progress : Progress d w done x) (funding : Funding d w done x)
    (affords : (w.store.volumes id).status = .active →
      (w.store.accounts (w.store.volumes id).owner).active = true →
      canPull d w (w.store.accounts (w.store.volumes id).owner).payer (demand d w ids) = .ok true)
    {outcome : TriggerOutcome} (ok : triggerOne d msg x id = .ok (outcome, y)) :
    Funding d w (done ++ [id]) y := by
  have later := triggerOne_later documented payers ok
  have written := progress.alike.written id
  have batch : (x.store.volumes id).batchId = (w.store.volumes id).batchId := congrArg (·.2.2.1) written
  have owner : (x.store.volumes id).owner = (w.store.volumes id).owner := congrArg (·.1) written
  have product : ∀ {outpayment}, Due d x (x.store.volumes id) outpayment →
      lack d w (w.store.volumes id).batchId * 2 ^ (x.store.volumes id).depth.toNat =
        cost d w (w.store.volumes id).batchId := by
    intro outpayment due
    rw [cost, batchCost, ← progress.alike.depth, ← batch, ← due.depth]
    rfl
  cases triggerOne_end ok with
  | idle status =>
    exact funding.stay later rfl rfl fun owes => absurd (progress.owes_active owes) status
  | retired active edge gone =>
    refine funding.stay later rfl rfl fun ⟨_, due, _⟩ => ?_
    exact absurd (progress.alike.edge_iff.mp edge) (no_edge due)
  | noAuth due inactive =>
    refine funding.stay later rfl rfl fun ⟨_, _, auth, _⟩ => ?_
    rw [progress.alike.accounts, owner, auth] at inactive
    cases inactive
  | noDeficit due auth full => exact funding.stay later rfl rfl (funding.full progress due full)
  | @paymentFailed outpayment due auth short refused =>
    obtain ⟨owes, fresh, deficit⟩ := funding.short progress due auth short
    have external := payers _ auth
    have amount := Word.shl_le (d.deficit x.postage (x.store.volumes id) outpayment)
      (x.store.volumes id).depth.toNat
    have room := owed_room within owes fresh
    rw [deficit, product due] at amount
    rw [deficit, progress.alike.accounts, owner] at refused
    rw [progress.alike.accounts, owner] at external
    obtain ⟨_, started, auth', _⟩ := owes
    exact absurd refused (funding.payable external (words _) (affords started.active auth') (by omega))
  | @toppedUp outpayment _ w₁ w₂ w₃ due auth short shifted payable pulled approved topped =>
    obtain ⟨owes, fresh, deficit⟩ := funding.short progress due auth short
    obtain ⟨amount, paid⟩ := topUp_paid documented shifted due.depth pulled approved topped
    have finite := charge_finite (d.deficit_lt x.postage (x.store.volumes id) outpayment)
      (x.store.volumes id).depth.toNat
    have raised := topUp_raised documented topped
    rw [(approve_frame approved).2.2.2, (pull_frame pulled).2.2.2, deficit, batch] at raised
    rw [deficit, product due] at finite
    rw [amount, deficit, product due] at paid
    refine funding.raise documented later (payers _ auth) owes rfl fresh raised ⟨paid.passed, ?_⟩ finite
    exact (World.transfers_emit ..).trans paid.transfers

/-- The whole loop, when every payer can pay for everything. -/
theorem triggerMany_funding (documented : d.Documented) (payers : ExternalPayers d w.store)
    (words : ∀ p, d.token.allowance w.bzz p d.address < Word.modulus)
    (affords : ∀ id ∈ ids, (w.store.volumes id).status = .active →
      (w.store.accounts (w.store.volumes id).owner).active = true →
      canPull d w (w.store.accounts (w.store.volumes id).owner).payer (demand d w ids) = .ok true)
    {left : List Bytes32} (all : done ++ left = ids) (progress : Progress d w done x)
    (funding : Funding d w done x) (ok : triggerMany d msg x left = .ok u) : Funding d w ids u := by
  induction left generalizing done x with
  | nil =>
    cases ok
    rwa [← all, List.append_nil]
  | cons id left ih =>
    obtain ⟨mid, first, rest⟩ := bind_success ok
    obtain ⟨outcome, one⟩ := trigger_success first
    have kept := later_payers payers funding.later
    have within : done ++ [id] ⊆ ids := fun other member => by
      rw [← all]
      simp only [List.mem_append, List.mem_cons] at member ⊢
      tauto
    refine ih (by rw [← all]; simp) (progress.step documented kept one) ?_ rest
    exact funding.step documented kept words within progress (affords id (within (by simp))) one

end

/-! ## Two orders -/

theorem triggerMany_represented {ids : List Bytes32} (rep : Represented w.store)
    (ok : triggerMany d msg w ids = .ok u) : Represented u.store := by
  induction ids generalizing w with
  | nil =>
    cases ok
    exact rep
  | cons id ids ih =>
    obtain ⟨mid, first, rest⟩ := bind_success ok
    obtain ⟨outcome, one⟩ := trigger_success first
    exact ih (rep.triggerOne one) rest

/-- Two loops that have processed the same IDs agree on every status. -/
theorem Progress.statuses {done done' : List Bytes32} (first : Progress d w done x)
    (second : Progress d w done' y) (same : ∀ id, id ∈ done ↔ id ∈ done') (id : Bytes32) :
    (x.store.volumes id).status = (y.store.volumes id).status := by
  by_cases gone : ∃ reason, id ∈ done ∧ Retires d w id reason
  · obtain ⟨reason, member, retires⟩ := gone
    rw [first.retired id reason member retires, second.retired id reason ((same id).mp member) retires]
  · have spared : ∀ reason, id ∈ done → ¬ Retires d w id reason :=
      fun reason member retires => gone ⟨reason, member, retires⟩
    rw [first.kept id spared, second.kept id fun reason member => spared reason ((same id).mpr member)]

theorem demand_perm {ids ids' : List Bytes32} (perm : ids.Perm ids') :
    demand d w ids = demand d w ids' := by
  have same : backing d w ids = backing d w ids' := by
    unfold backing
    rw [List.toFinset_eq_of_perm _ _ ((perm.filter _).map _)]
  rw [demand, same, demand]

variable {outside : World T P → World T P → Prop} {w₀ w₁ u' : World T P} {es : List (Entry T P)}

/-- Two orders of one list of IDs, both of which go through. Every volume ends with
the same status and is retired for the same reason; the active list holds the same
IDs, if there were never 2^32 Active volumes; and where every payer concerned can pay
for everything, every batch ends with the same balance and PostageStamp with the
same BZZ. -/
theorem trigger_order_independent (documented : d.Documented) (deployed : Deployed d w₀)
    (run : Run d outside w₀ es w₁) (idle : Idle w₁ w) {msg' : Msg} {ids ids' : List Bytes32}
    (perm : ids.Perm ids') (ok : triggerMany d msg w ids = .ok u)
    (ok' : triggerMany d msg' w ids' = .ok u') :
    (∀ id, (u.store.volumes id).status = (u'.store.volumes id).status) ∧
    (∃ added added', u.events = w.events ++ added ∧ u'.events = w.events ++ added' ∧
      ∀ id reason, .volumeRetired id reason ∈ added ↔ .volumeRetired id reason ∈ added') ∧
    ((∀ e ∈ es, Few e.before.store) →
      ∀ id, id ∈ u.store.activeVolumeIds ↔ id ∈ u'.store.activeVolumeIds) ∧
    ((∀ p, d.token.allowance w.bzz p d.address < Word.modulus) →
      (∀ id ∈ ids, (w.store.volumes id).status = .active →
        (w.store.accounts (w.store.volumes id).owner).active = true →
        canPull d w (w.store.accounts (w.store.volumes id).owner).payer (demand d w ids) = .ok true) →
      (∀ b, (d.stamp.batches u.postage b).normalisedBalance =
        (d.stamp.batches u'.postage b).normalisedBalance) ∧
      d.token.balanceOf u.bzz d.postage = d.token.balanceOf u'.bzz d.postage) := by
  have payers : ExternalPayers d w.store := by
    rw [idle.store]
    exact run_payers deployed run
  have progress := triggerMany_progress documented payers (.start w) ok
  have progress' := triggerMany_progress documented payers (.start w) ok'
  have statuses := progress.statuses progress' fun id => by simp [perm.mem_iff]
  refine ⟨statuses, ?_, fun few id => ?_, fun words affords => ?_⟩
  · obtain ⟨added, events, listed⟩ := progress.events
    obtain ⟨added', events', listed'⟩ := progress'.events
    refine ⟨added, added', events, events', fun id reason => ?_⟩
    rw [listed, listed', List.nil_append, List.nil_append, perm.mem_iff]
  · have rep : Represented w.store := by
      rw [idle.store]
      exact (run_represented deployed run few).1
    rw [(triggerMany_represented rep ok).listed, (triggerMany_represented rep ok').listed, statuses]
  · have affords' := affords
    rw [demand_perm perm] at affords'
    have funding := triggerMany_funding documented payers words affords rfl (.start w) (.start w) ok
    have funding' := triggerMany_funding documented payers words
      (fun id member => affords' id (perm.mem_iff.mpr member)) rfl (.start w) (.start w) ok'
    refine ⟨fun b => ?_, ?_⟩
    · rw [funding.batches, funding'.batches, owed_perm perm]
    · rw [funding.received, funding'.received, owed_perm perm]

/-- Two volumes of one owner on the sample batch, not funded yet. -/
def sharing : List (Msg × Call) := Sample.enrolling ++ [(⟨Sample.owner, 5⟩, .registerVolume Sample.batch 0)]

def shared : World Reference.Ledger Reference.Office := (play Sample.deployment Sample.genesis sharing).2

theorem shared_run : Run Sample.deployment anything Sample.genesis
    (play Sample.deployment Sample.genesis sharing).1 shared :=
  play_run anything_refl (by decide)

theorem sample_words (p : Address) :
    Sample.deployment.token.allowance shared.bzz p Sample.deployment.address < Word.modulus := by
  change (if p = Sample.payer ∧ (0x100 : Address) = 0x100 then Word.unlimited else 0) < Word.modulus
  split
  · decide
  · decide

theorem shared_demand :
    demand Sample.deployment shared [Sample.first, Sample.second] = 25 * 2 ^ 20 := by
  have rides : (([Sample.first, Sample.second].filter fun id =>
      (shared.store.volumes id).status = .active).map fun id => (shared.store.volumes id).batchId) =
      [Sample.batch, Sample.batch] := by decide
  have one : backing Sample.deployment shared [Sample.first, Sample.second] = {Sample.batch} := by
    rw [backing, rides]
    decide
  rw [demand, one, Finset.sum_singleton]
  decide

theorem shared_affords (id : Bytes32) (member : id ∈ [Sample.first, Sample.second]) :
    canPull Sample.deployment shared (shared.store.accounts (shared.store.volumes id).owner).payer
      (demand Sample.deployment shared [Sample.first, Sample.second]) = .ok true := by
  have pulls : canPull Sample.deployment shared Sample.payer (25 * 2 ^ 20) = .ok true := by
    decide +kernel
  simp only [List.mem_cons, List.not_mem_nil, or_false] at member
  rw [shared_demand]
  obtain rfl | rfl := member
  · exact pulls
  · exact pulls

/-- Whichever of the two is triggered first, the shared batch ends alike. -/
theorem trigger_order_independent_sample :
    ∃ u u', triggerMany Sample.deployment ⟨0xD, 6⟩ shared [Sample.first, Sample.second] = .ok u ∧
      triggerMany Sample.deployment ⟨0xE, 6⟩ shared [Sample.second, Sample.first] = .ok u' ∧
      (∀ id, id ∈ u.store.activeVolumeIds ↔ id ∈ u'.store.activeVolumeIds) ∧
      ∀ b, (Sample.deployment.stamp.batches u.postage b).normalisedBalance =
        (Sample.deployment.stamp.batches u'.postage b).normalisedBalance := by
  obtain ⟨u, ok⟩ := success_of_isOk (by decide : (triggerMany Sample.deployment ⟨0xD, 6⟩ shared
    [Sample.first, Sample.second]).isOk = true)
  obtain ⟨u', ok'⟩ := success_of_isOk (by decide : (triggerMany Sample.deployment ⟨0xE, 6⟩ shared
    [Sample.second, Sample.first]).isOk = true)
  obtain ⟨_, _, listed, funded⟩ := trigger_order_independent Sample.documented Sample.deployed
    shared_run (.refl _) (List.Perm.swap _ _ []) ok ok'
  refine ⟨u, u', ok, ok', listed (few_of_count Sample.deployed shared_run (by decide)), ?_⟩
  exact (funded sample_words fun id member _ _ => shared_affords id member).1

/-! ## Past 32 bits -/

open Enumeration
open Sample (deployment owner genesis office)

/-- PostageStamp after every batch has expired and was removed. -/
def expired : Reference.Office := { office with batches := fun _ => ⟨0, 0, 0, false, 0, 0⟩ }

/-- `_retire` of a volume not in the first place leaves the first place as it is, and
the last ID takes the freed one. -/
theorem retire_behind {s s' : Storage} {id : Bytes32} (behind : 0 < (s.volumes id).activeIndex.toNat)
    (bound : (s.volumes id).activeIndex.toNat < s.activeVolumeIds.length)
    (ok : s.retire id = .ok s') :
    s'.activeVolumeIds[0]? = s.activeVolumeIds[0]? ∧
    s'.activeVolumeIds.length = s.activeVolumeIds.length - 1 ∧
    ∀ lastId ≠ id, s.activeVolumeIds[s.activeVolumeIds.length - 1]? = some lastId →
      (s.volumes id).activeIndex.toNat ≠ s.activeVolumeIds.length - 1 →
      (s'.volumes lastId).activeIndex = (s.volumes id).activeIndex := by
  unfold Storage.retire at ok
  obtain ⟨last, read, ok⟩ := bind_success ok
  obtain ⟨t, moved, ok⟩ := bind_success ok
  obtain ⟨p, popped, ok⟩ := bind_success ok
  obtain ⟨_, rfl⟩ := Word.sub?_eq_some.mp (orRevert_success read)
  unfold Storage.popActive at popped
  split at popped
  · cases popped
  cases popped
  cases ok
  rw [Storage.setVolume_same, Volume.setStatus_index] at moved
  unfold Storage.moveLast at moved
  split at moved
  · rename_i final
    cases moved
    refine ⟨?_, ?_, fun lastId _ _ inner => absurd final inner⟩
    · simp only [Storage.setVolume_ids, List.getElem?_dropLast]
      exact if_pos (by omega)
    · exact List.length_dropLast
  · obtain ⟨lastId, found, moved⟩ := bind_success moved
    split at moved
    · cases moved
    cases moved
    refine ⟨?_, ?_, fun other different last _ => ?_⟩
    · simp only [Storage.setVolume_ids, List.getElem?_dropLast, List.length_set]
      rw [if_pos (by omega), List.getElem?_set_ne (by omega)]
    · simp only [Storage.setVolume_ids, List.length_dropLast, List.length_set]
    · obtain rfl := Option.some.inj ((orRevert_success found).symm.trans last)
      rw [Storage.setVolume_other different]
      dsimp only
      rw [Storage.setVolume_same]
      rfl

/-- A trigger then retires whatever is Active. -/
theorem expires (msg : Msg) {x : World Reference.Ledger Reference.Office} {id : Bytes32} {s' : Storage}
    (block : x.block = genesis.block) (postage : x.postage = expired)
    (isActive : (x.store.volumes id).status = .active) (gone : x.store.retire id = .ok s') :
    ∃ y, trigger deployment msg x id = .ok y ∧ y.block = genesis.block ∧ y.postage = expired ∧
      y.store = s' := by
  have read : deployment.stamp.currentTotalOutPayment x.block x.postage = some 0 := by
    rw [block, postage]
    rfl
  have missing : (deployment.stamp.batches x.postage (x.store.volumes id).batchId).owner = 0 := by
    rw [postage]
    rfl
  refine ⟨{ x with store := s' }.emit msg (.volumeRetired id .batchDied), ?_, block, postage, rfl⟩
  rw [trigger, triggerOne, if_neg (not_not.mpr isActive), read, orRevert_some, ok_bind,
    if_pos (.inl missing), retired_of_stored gone]
  rfl

/-- Two volumes, one after the other. -/
theorem expires_both (msg : Msg) {x : World Reference.Ledger Reference.Office} {a b : Bytes32} {s₁ s₂ : Storage}
    (different : b ≠ a) (block : x.block = genesis.block) (postage : x.postage = expired)
    (first : (x.store.volumes a).status = .active) (second : (x.store.volumes b).status = .active)
    (gone : x.store.retire a = .ok s₁) (gone' : s₁.retire b = .ok s₂) :
    ∃ y, triggerMany deployment msg x [a, b] = .ok y ∧ y.store = s₂ := by
  obtain ⟨y, one, block', postage', rfl⟩ := expires msg block postage first gone
  have still : (y.store.volumes b).status = .active := by
    rw [((Storage.retire_frame gone).2.2.1 b).2, if_neg different]
    exact second
  obtain ⟨z, two, _, _, same⟩ := expires msg block' postage' still gone'
  refine ⟨z, ?_, same⟩
  rw [triggerMany, one, ok_bind, triggerMany, two, ok_bind, triggerMany]

/-- With 2^32 + 1 volumes Active, triggering the last and then the second unlists the
first volume, whose batch is dead too but which no one triggered; the other order
does not. -/
theorem crowded_orders_differ :
    ∃ es v w ids ids' u u', Run deployment anything genesis es v ∧ Idle v w ∧ ids.Perm ids' ∧
      triggerMany deployment ⟨owner, 6⟩ w ids = .ok u ∧
      triggerMany deployment ⟨owner, 6⟩ w ids' = .ok u' ∧
      ∃ id, id ∉ u.store.activeVolumeIds ∧ id ∈ u'.store.activeVolumeIds := by
  obtain ⟨m, size⟩ : ∃ m, m + 1 = 2 ^ 32 := ⟨2 ^ 32 - 1, by decide⟩
  have wraps : UInt32.ofNat (m + 1) = 0 := by
    rw [size]
    rfl
  obtain ⟨es, v, run, crowd⟩ := crowd_reached (m + 2) (by omega)
  have apart : ∀ j < m + 2, ∀ k < m + 2, j ≠ k → volumeAt j ≠ volumeAt k := by
    intro j first k second different same
    exact different (volumeAt_inj (by omega) (by omega) same)
  have ids := crowd.ids.trans (crowd_ids m)
  have count : v.store.activeVolumeIds.length = m + 2 := by
    rw [crowd.ids, List.length_map, List.length_range]
  have one := crowd.records 1 (by omega)
  have last := crowd.records (m + 1) (by omega)
  have notFirst := apart 0 (by omega) (m + 1) (by omega) (by omega)
  have notLast := apart 1 (by omega) (m + 1) (by omega) (by omega)
  have atEnd : v.store.activeVolumeIds[v.store.activeVolumeIds.length - 1]? = some (volumeAt (m + 1)) := by
    simp [crowd.ids]
  have position : (v.store.volumes (volumeAt 1)).activeIndex.toNat = 1 := by
    rw [one.2.2]
    rfl
  obtain ⟨s₁, gone₁, ids₁, kept⟩ := retire_wrapped ids (last.2.2.trans wraps)
  have second : (s₁.volumes (volumeAt 1)).activeIndex.toNat < s₁.activeVolumeIds.length := by
    rw [kept _ notLast, position, ids₁, List.length_cons, List.length_map, List.length_range]
    omega
  have inside : (v.store.volumes (volumeAt 1)).activeIndex.toNat < v.store.activeVolumeIds.length := by
    omega
  obtain ⟨s₂, gone₂⟩ := Storage.retire_total second
  obtain ⟨t₁, moved₁⟩ := Storage.retire_total inside
  obtain ⟨head₁, count₁, taken⟩ := retire_behind (by omega) inside moved₁
  have place : (t₁.volumes (volumeAt (m + 1))).activeIndex.toNat = 1 := by
    rw [taken _ notLast.symm atEnd (by omega), position]
  have behind : (t₁.volumes (volumeAt (m + 1))).activeIndex.toNat < t₁.activeVolumeIds.length := by
    omega
  obtain ⟨t₂, moved₂⟩ := Storage.retire_total behind
  obtain ⟨head₂, _, _⟩ := retire_behind (by omega) behind moved₂
  obtain ⟨u, ok, rfl⟩ := expires_both ⟨owner, 6⟩ (x := { v with postage := expired }) notLast
    crowd.block rfl last.2.1 one.2.1 gone₁ gone₂
  obtain ⟨u', ok', rfl⟩ := expires_both ⟨owner, 6⟩ (x := { v with postage := expired })
    notLast.symm crowd.block rfl one.2.1 last.2.1 moved₁ moved₂
  refine ⟨es, v, { v with postage := expired }, [volumeAt (m + 1), volumeAt 1],
    [volumeAt 1, volumeAt (m + 1)], u, u', run, ⟨rfl, rfl⟩, .swap _ _ [], ok, ok', volumeAt 0, ?_, ?_⟩
  · intro listed
    have listed := (Storage.retire_frame gone₂).2.2.2 listed
    rw [ids₁, List.mem_cons, List.mem_map] at listed
    rcases listed with same | ⟨k, counted, same⟩
    · exact notFirst same
    · have bound := List.mem_range.mp counted
      exact apart (k + 1) (by omega) 0 (by omega) (by omega) same
  · refine List.mem_of_getElem? (i := 0) ?_
    rw [head₂, head₁, ids]
    rfl

end SwarmVolumes.Guarantees.OrderIndependence
