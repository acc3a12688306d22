import SwarmVolumes.Guarantees.ChargeCorrectness

/-!
# Batch-level trigger idempotence

Within one block a batch is topped up at most once, however many volumes of
however many owners ride on it and in whatever order they are triggered (I5).
Trigger steps move the world one way only, `Later`: volumes retire, batches go
to target, payers get poorer. So a step that has run finds nothing to pay for
when it runs again.
-/
namespace SwarmVolumes.Guarantees.TriggerIdempotence
open Library Library.Erc20 Source ChargeCorrectness

variable {T P : Type} {d : Deployment T P} {msg : Msg} {w x y u : World T P}

/-- `t'` lets nobody pay the registry who could not at `t`. -/
structure Poorer (d : Deployment T P) (t t' : T) (payer : Address) : Prop where
  balance : d.token.balanceOf t' payer ≤ d.token.balanceOf t payer
  allowance : d.token.allowance t' payer d.address ≤ d.token.allowance t payer d.address
  unlimited : d.token.allowance t payer d.address = Word.unlimited →
    d.token.allowance t' payer d.address = Word.unlimited
  expiry : ∀ expirations, d.token.expirations = some expirations →
    expirations t' payer d.address = expirations t payer d.address

/-- PostageStamp at `p'`: every batch is as it was at `p`, or has been raised to
the target. -/
structure Fuller (d : Deployment T P) (block : Block) (p p' : P) : Prop where
  price : d.stamp.lastPrice p' = d.stamp.lastPrice p
  outpayment : d.stamp.currentTotalOutPayment block p' = d.stamp.currentTotalOutPayment block p
  owner : ∀ id, (d.stamp.batches p' id).owner = (d.stamp.batches p id).owner
  depth : ∀ id, (d.stamp.batches p' id).depth = (d.stamp.batches p id).depth
  grown : ∀ id, (d.stamp.batches p id).normalisedBalance ≤ (d.stamp.batches p' id).normalisedBalance
  raised : ∀ id outpayment, d.stamp.currentTotalOutPayment block p = some outpayment →
    (d.stamp.batches p' id).normalisedBalance = (d.stamp.batches p id).normalisedBalance ∨
    d.target p ≤ (d.stamp.batches p' id).normalisedBalance - outpayment

/-- `u` follows `x` in the same block, with nothing but trigger steps between. -/
structure Later (d : Deployment T P) (x u : World T P) : Prop where
  block : u.block = x.block
  accounts : u.store.accounts = x.store.accounts
  written : ∀ id, (u.store.volumes id).written = (x.store.volumes id).written
  active : ∀ id, (u.store.volumes id).status = .active → (x.store.volumes id).status = .active
  payers : ∀ p, External d p → Poorer d x.bzz u.bzz p
  postage : Fuller d x.block x.postage u.postage

theorem Poorer.refl (t : T) (payer : Address) : Poorer d t t payer :=
  ⟨Nat.le_refl _, Nat.le_refl _, id, fun _ _ => rfl⟩

theorem Poorer.trans {t t' t'' : T} {payer : Address} (first : Poorer d t t' payer)
    (second : Poorer d t' t'' payer) : Poorer d t t'' payer :=
  ⟨second.balance.trans first.balance, second.allowance.trans first.allowance,
    fun whole => second.unlimited (first.unlimited whole),
    fun _ getter => (second.expiry _ getter).trans (first.expiry _ getter)⟩

theorem Fuller.target {block : Block} {p p' : P} (fuller : Fuller d block p p') :
    d.target p' = d.target p := by
  rw [Deployment.target, fuller.price, Deployment.target]

theorem Fuller.refl (block : Block) (p : P) : Fuller d block p p :=
  ⟨rfl, rfl, fun _ => rfl, fun _ => rfl, fun _ => Nat.le_refl _, fun _ _ _ => .inl rfl⟩

theorem Fuller.trans {block : Block} {p p' p'' : P} (first : Fuller d block p p')
    (second : Fuller d block p' p'') : Fuller d block p p'' := by
  refine ⟨second.price.trans first.price, second.outpayment.trans first.outpayment,
    fun id => (second.owner id).trans (first.owner id),
    fun id => (second.depth id).trans (first.depth id),
    fun id => (first.grown id).trans (second.grown id), fun id outpayment read => ?_⟩
  have full := second.raised id outpayment (first.outpayment.trans read)
  rw [first.target] at full
  rcases first.raised id outpayment read with same | reached
  · rwa [same] at full
  · exact .inr (reached.trans (Nat.sub_le_sub_right (second.grown id) _))

theorem Later.refl (x : World T P) : Later d x x :=
  ⟨rfl, rfl, fun _ => rfl, fun _ => id, fun _ _ => .refl _ _, .refl _ _⟩

theorem Later.trans (first : Later d x y) (second : Later d y u) : Later d x u :=
  ⟨second.block.trans first.block, second.accounts.trans first.accounts,
    fun id => (second.written id).trans (first.written id),
    fun id active => first.active id (second.active id active),
    fun p external => (first.payers p external).trans (second.payers p external),
    first.postage.trans (first.block ▸ second.postage)⟩

/-- An event alone changes nothing. -/
theorem Later.emit (x : World T P) (msg : Msg) (e : Event) : Later d x (x.emit msg e) :=
  ⟨rfl, rfl, fun _ => rfl, fun _ => id, fun _ _ => .refl _ _, .refl _ _⟩

/-! ## One step -/

/-- A payment through the registry makes its payer poorer and nobody richer. -/
theorem paid_poorer (documented : d.Documented) {payer p : Address} {amount : Nat}
    (paid : Paid d x y payer amount) (fromPayer : payer ≠ d.address) (external : External d p) :
    Poorer d x.bzz y.bzz p := by
  have balances := (paid.passed.balances documented.token.toStandard fromPayer
    documented.apart).2 p
  have allowances := paid.passed.allowances documented.token.toStandard fromPayer
    documented.apart p d.address
  rw [if_neg fun both => external.notRegistry both.1] at allowances
  refine ⟨?_, ?_, ?_, fun expirations getter => ?_⟩
  · rw [balances]
    unfold moved
    rw [if_neg external.notRegistry, if_neg external.notPostage]
    split
    · exact Nat.sub_le _ _
    · rw [if_neg external.notRegistry]
  · rw [allowances]
    split
    · rename_i same
      rw [same.1]
      exact spent_le _ _
    · exact Nat.le_refl _
  · intro whole
    rw [allowances]
    split
    · rename_i same
      rw [same.1] at whole
      rw [whole, spent_unlimited]
    · exact whole
  · obtain ⟨t₁, t₂, _, _, _, pulled, approved, forwarded⟩ := paid.passed
    rw [documented.token.transferFrom_expirations getter forwarded,
      documented.token.approve_expirations getter approved _ _ external.notRegistry,
      documented.token.transferFrom_expirations getter pulled]

/-- A top-up found its batch short and raised it by the deficit. -/
theorem toppedUp_raised (documented : d.Documented) {id : Bytes32}
    (ok : triggerOne d msg x id = .ok (.toppedUp, y)) :
    ∃ outpayment, Due d x (x.store.volumes id) outpayment ∧
      d.remaining x.postage (x.store.volumes id) outpayment < d.target x.postage ∧
      Raised d x.postage y.postage (x.store.volumes id).batchId
        (d.deficit x.postage (x.store.volumes id) outpayment) := by
  rcases (triggerOne_outside documented ok).2 with ⟨no, _⟩ | ⟨_, outpayment, due, raised⟩
  · exact absurd rfl no
  · refine ⟨outpayment, due, ?_, raised⟩
    cases triggerOne_end ok with
    | toppedUp due' auth short =>
      rwa [Option.some.inj (due.read.symm.trans due'.read)]

theorem noDeficit_full {id : Bytes32} (ok : triggerOne d msg x id = .ok (.noDeficit, y)) :
    ∃ outpayment, Due d x (x.store.volumes id) outpayment ∧
      d.target x.postage ≤ d.remaining x.postage (x.store.volumes id) outpayment := by
  cases triggerOne_end ok with
  | noDeficit due auth full => exact ⟨_, due, full⟩

/-- A batch raised by its deficit is at target. -/
theorem raised_full {v : Volume} {outpayment : Nat} (due : Due d x v outpayment)
    (raised : Raised d x.postage y.postage v.batchId (d.deficit x.postage v outpayment)) :
    d.target y.postage ≤ d.remaining y.postage v outpayment := by
  have alive := due.alive
  rw [raised.target, Deployment.remaining, Deployment.batchOf, raised.balance]
  unfold Deployment.deficit Deployment.remaining Deployment.batchOf
  omega

theorem raised_fuller {v : Volume} {outpayment : Nat} (due : Due d x v outpayment)
    (raised : Raised d x.postage y.postage v.batchId (d.deficit x.postage v outpayment)) :
    Fuller d x.block x.postage y.postage := by
  have same : ∀ id, (d.stamp.batches y.postage id).owner = (d.stamp.batches x.postage id).owner ∧
      (d.stamp.batches y.postage id).depth = (d.stamp.batches x.postage id).depth ∧
      ((d.stamp.batches y.postage id).normalisedBalance =
        (d.stamp.batches x.postage id).normalisedBalance ∨
        id = v.batchId ∧ (d.stamp.batches y.postage id).normalisedBalance =
          (d.stamp.batches x.postage id).normalisedBalance + d.deficit x.postage v outpayment) := by
    intro id
    by_cases here : id = v.batchId
    · subst here
      exact ⟨raised.owner, raised.depth, .inr ⟨rfl, raised.balance⟩⟩
    · rw [raised.others id here]
      exact ⟨rfl, rfl, .inl rfl⟩
  refine ⟨raised.price, raised.outpayment _, fun id => (same id).1, fun id => (same id).2.1,
    fun id => ?_, fun id read again => ?_⟩
  · rcases (same id).2.2 with kept | ⟨_, grown⟩
    · exact kept.ge
    · exact grown ▸ Nat.le_add_right _ _
  · rcases (same id).2.2 with kept | ⟨here, grown⟩
    · exact .inl kept
    · obtain rfl := Option.some.inj (due.read.symm.trans again)
      have full := raised_full due raised
      rw [raised.target, Deployment.remaining, Deployment.batchOf, ← here] at full
      exact .inr full

/-- The trigger steps move the world one way. -/
theorem triggerOne_later (documented : d.Documented) (payers : ExternalPayers d x.store)
    {id : Bytes32} {outcome : TriggerOutcome} (ok : triggerOne d msg x id = .ok (outcome, y)) :
    Later d x y := by
  cases triggerOne_end ok with
  | idle status => exact .emit ..
  | retired active edge retired =>
    obtain ⟨accounts, _, records, _⟩ := Storage.retire_frame retired
    refine ⟨rfl, accounts, fun id => (records id).1, fun other => ?_, fun _ _ => .refl _ _, .refl _ _⟩
    rw [World.emit_store, (records other).2]
    split
    · nofun
    · exact fun same => same
  | noAuth due inactive => exact .emit ..
  | noDeficit due auth full => exact .refl _
  | paymentFailed due auth short refused => exact .emit ..
  | @toppedUp _ _ w₁ w₂ w₃ due auth short shifted payable pulled approved topped =>
    obtain ⟨_, paid⟩ := topUp_paid documented shifted due.depth pulled approved topped
    obtain ⟨store₁, _, block₁, postage₁⟩ := pull_frame pulled
    obtain ⟨store₂, _, block₂, postage₂⟩ := approve_frame approved
    obtain ⟨store₃, _, block₃⟩ := topUp_frame topped
    have store : w₃.store = x.store := store₃.trans (store₂.trans store₁)
    have raised := topUp_raised documented topped
    rw [postage₂, postage₁] at raised
    have poorer : ∀ p, External d p → Poorer d x.bzz w₃.bzz p := fun p external =>
      paid_poorer documented paid (payers _ auth).notRegistry external
    refine ⟨block₃.trans (block₂.trans block₁), congrArg Storage.accounts store, fun id => ?_,
      fun id => ?_, poorer, raised_fuller due raised⟩
    · rw [World.emit_store, store]
    · rw [World.emit_store, store]
      exact fun same => same

/-- A payment refused once is refused later for the same amount. -/
theorem canPull_later {payer : Address} {amount : Nat} (later : Later d x u)
    (external : External d payer) (refused : canPull d x payer amount = .ok false) :
    canPull d u payer amount ≠ .ok true := by
  intro payable
  obtain ⟨funded, allowed, current⟩ := canPull_true payable
  have poorer := later.payers payer external
  rcases canPull_false refused with less | less | ⟨flag, whole, expirations, getter, set, past⟩
  · exact absurd (funded.trans poorer.balance) (Nat.not_le.mpr less)
  · exact absurd (allowed.trans poorer.allowance) (Nat.not_le.mpr less)
  · have expiry := poorer.expiry expirations getter
    rcases current flag (poorer.unlimited whole) expirations getter with zero | late
    · exact set (expiry.symm.trans zero)
    · rw [expiry, later.block] at late
      exact absurd late (Nat.not_le.mpr past)

/-- A batch at target stays there. -/
theorem full_later {v v' : Volume} {outpayment : Nat} (later : Later d x u)
    (same : v'.batchId = v.batchId)
    (full : d.target x.postage ≤ d.remaining x.postage v outpayment) :
    d.target u.postage ≤ d.remaining u.postage v' outpayment := by
  rw [later.postage.target]
  refine full.trans (Nat.sub_le_sub_right ?_ _)
  unfold Deployment.batchOf
  rw [same]
  exact later.postage.grown _

/-- A step that ran finds nothing to pay for when it runs again. -/
theorem repeat_step (documented : d.Documented) (payers : ExternalPayers d x.store) {msg' : Msg}
    {id : Bytes32} {first again : TriggerOutcome} {u' : World T P}
    (ran : triggerOne d msg x id = .ok (first, y)) (later : Later d y u)
    (repeated : triggerOne d msg' u id = .ok (again, u')) : again ≠ .toppedUp := by
  rintro rfl
  have whole := (triggerOne_later documented payers ran).trans later
  have written := whole.written id
  have batch : (u.store.volumes id).batchId = (x.store.volumes id).batchId :=
    congrArg (·.2.2.1) written
  have owner : (u.store.volumes id).owner = (x.store.volumes id).owner := congrArg (·.1) written
  have depth : (u.store.volumes id).depth = (x.store.volumes id).depth :=
    congrArg (·.2.2.2.2.2) written
  cases triggerOne_end repeated with
  | @toppedUp outpayment _ _ _ _ due auth short shifted payable pulled approved topped =>
    have read : d.stamp.currentTotalOutPayment x.block x.postage = some outpayment := by
      rw [← whole.postage.outpayment, ← whole.block]
      exact due.read
    -- the way the first step ended contradicts one of the guards of the second
    cases triggerOne_end ran with
    | idle status => exact status (whole.active id due.active)
    | retired active edge retired =>
      have status := later.active id due.active
      rw [World.emit_store, ((Storage.retire_frame retired).2.2.1 id).2, if_pos rfl] at status
      cases status
    | noAuth due' inactive =>
      rw [whole.accounts, owner, inactive] at auth
      cases auth
    | noDeficit due' auth' full =>
      obtain rfl := Option.some.inj (read.symm.trans due'.read)
      exact absurd (full_later whole batch full) (Nat.not_le.mpr short)
    | paymentFailed due' auth' short' refused =>
      obtain rfl := Option.some.inj (read.symm.trans due'.read)
      rcases whole.postage.raised (x.store.volumes id).batchId _ read with same | reached
      · have deficit : d.deficit u.postage (u.store.volumes id) outpayment =
            d.deficit x.postage (x.store.volumes id) outpayment := by
          unfold Deployment.deficit Deployment.remaining Deployment.batchOf
          rw [whole.postage.target, batch, same]
        rw [← deficit, ← depth, ← shifted] at refused
        have external := payers _ auth'
        rw [whole.accounts, owner] at payable
        exact canPull_later whole external refused payable
      · rw [← batch, ← whole.postage.target] at reached
        exact absurd reached (Nat.not_le.mpr short)
    | toppedUp due' auth' short' =>
      obtain ⟨outpayment', due', _, raised⟩ := toppedUp_raised documented ran
      obtain rfl := Option.some.inj (read.symm.trans due'.read)
      exact absurd (full_later later batch (raised_full due' raised)) (Nat.not_le.mpr short)

/-! ## Sequences of trigger calls -/

def isTrigger : Call → Bool
  | .trigger _ | .triggerMany _ => true
  | _ => false

/-- The IDs a trigger call names. -/
def triggered : Call → List Bytes32
  | .trigger id => [id]
  | .triggerMany ids => ids
  | _ => []

/-- The trigger steps of a call that went through. -/
def processed (d : Deployment T P) (e : Entry T P) : List (TriggerStep T P) :=
  if e.Succeeded then e.call.steps d e.msg e.before else []

theorem triggerSteps_ids {ids : List Bytes32} {step : TriggerStep T P}
    (member : step ∈ triggerSteps d msg x ids) : step.volumeId ∈ ids := by
  induction ids generalizing x with
  | nil => simp [triggerSteps] at member
  | cons id ids ih =>
    rw [triggerSteps] at member
    split at member
    · rcases List.mem_cons.mp member with rfl | later
      · exact List.mem_cons_self ..
      · exact List.mem_cons_of_mem _ (ih later)
    · simp at member

theorem processed_ids {e : Entry T P} (call : isTrigger e.call = true) {step : TriggerStep T P}
    (member : step ∈ processed d e) : step.volumeId ∈ triggered e.call := by
  unfold processed at member
  split at member
  · cases same : e.call with
    | trigger id =>
      rw [same] at member
      exact triggerSteps_ids member
    | triggerMany ids =>
      rw [same] at member
      exact triggerSteps_ids member
    | _ =>
      rw [same] at call
      cases call
  · simp at member

/-- A trigger call that goes through is the trace of its steps; one that reverts has
none and leaves the world as it was. -/
theorem execute_ran {call : Call} (trigger : isTrigger call = true) :
    let e : Entry T P := ⟨x, msg, call, execute d msg x call⟩
    Trace (Ran d) x (processed d e) e.after := by
  intro e
  cases same : execute d msg x call with
  | error r =>
    have failed : ¬ e.Succeeded := by
      simp [e, Entry.Succeeded, same, Except.isOk, Except.toBool]
    rw [processed, if_neg failed, Entry.after_of_error same]
    exact .nil
  | ok pair =>
    rw [processed, if_pos (Entry.succeeded_iff.mpr ⟨_, _, same⟩), Entry.after_of_ok same]
    cases call with
    | trigger id =>
      obtain ⟨left, ok, rfl⟩ := map_success same
      exact trigger_ran ok
    | triggerMany ids =>
      obtain ⟨left, ok, rfl⟩ := map_success same
      exact triggerMany_ran ok
    | _ => cases trigger

theorem play_ran {calls : List (Msg × Call)} (triggers : ∀ c ∈ calls, isTrigger c.2 = true) :
    Trace (Ran d) x ((play d x calls).1.flatMap (processed d)) (play d x calls).2 := by
  induction calls generalizing x with
  | nil => exact .nil
  | cons c calls ih =>
    exact (execute_ran (triggers c (List.mem_cons_self ..))).append
      (ih fun c' member => triggers c' (List.mem_cons_of_mem _ member))

theorem play_ids {calls : List (Msg × Call)} (triggers : ∀ c ∈ calls, isTrigger c.2 = true)
    {step : TriggerStep T P} (member : step ∈ (play d x calls).1.flatMap (processed d)) :
    ∃ c ∈ calls, step.volumeId ∈ triggered c.2 := by
  induction calls generalizing x with
  | nil => simp [play] at member
  | cons c calls ih =>
    rcases List.mem_append.mp (List.flatMap_cons ▸ member) with here | later
    · exact ⟨c, List.mem_cons_self .., processed_ids (triggers c (List.mem_cons_self ..)) here⟩
    · obtain ⟨c', listed, named⟩ :=
        ih (fun c' member => triggers c' (List.mem_cons_of_mem _ member)) later
      exact ⟨c', List.mem_cons_of_mem _ listed, named⟩

theorem later_payers (payers : ExternalPayers d x.store) (later : Later d x u) :
    ExternalPayers d u.store := by
  rw [ExternalPayers, later.accounts]
  exact payers

theorem ran_later (documented : d.Documented) (payers : ExternalPayers d x.store)
    {steps : List (TriggerStep T P)} (trace : Trace (Ran d) x steps y) : Later d x y := by
  refine trace.invariant (Later d x) (.refl x) ?_
  rintro u step u' ⟨_, _, msg, ran⟩ later
  exact later.trans (triggerOne_later documented (later_payers payers later) ran)

/-- Each step of a sequence lies between its ends. -/
theorem ran_between (documented : d.Documented) (payers : ExternalPayers d x.store)
    {steps : List (TriggerStep T P)} (trace : Trace (Ran d) x steps y) {step : TriggerStep T P}
    (member : step ∈ steps) :
    Later d x step.before ∧ Later d step.after y ∧
    ∃ msg, triggerOne d msg step.before step.volumeId = .ok (step.outcome, step.after) := by
  obtain ⟨pre, post, rfl⟩ := List.append_of_mem member
  obtain ⟨a, b, first, ⟨before, after, ran⟩, rest⟩ := trace.at_label
  subst before after
  have early := ran_later documented payers first
  obtain ⟨msg, one⟩ := ran
  have kept := later_payers payers early
  exact ⟨early, ran_later documented (later_payers kept (triggerOne_later documented kept one)) rest,
    msg, one⟩

/-! ## One top-up for each batch -/

/-- A `Toppedup` of a volume on `batchId`. -/
def toppedOn (s : Storage) (batchId : Bytes32) : Event → Bool
  | .toppedup id _ _ => (s.volumes id).batchId = batchId
  | _ => false

/-- What has happened to a batch since `w`, with the events added on the way to `u`. -/
inductive Gain (d : Deployment T P) (w u : World T P) (batchId : Bytes32) (added : List Event) : Prop
  | untouched (silent : added.countP (toppedOn w.store batchId) = 0)
      (same : (d.stamp.batches u.postage batchId).normalisedBalance =
        (d.stamp.batches w.postage batchId).normalisedBalance)
  | raised {outpayment : Nat} (once : added.countP (toppedOn w.store batchId) = 1)
      (read : d.stamp.currentTotalOutPayment w.block w.postage = some outpayment)
      (alive : outpayment < (d.stamp.batches w.postage batchId).normalisedBalance)
      (grown : (d.stamp.batches u.postage batchId).normalisedBalance =
        (d.stamp.batches w.postage batchId).normalisedBalance +
          (d.target w.postage -
            ((d.stamp.batches w.postage batchId).normalisedBalance - outpayment)))

/-- Only a top-up emits `Toppedup`, and for its own volume. -/
theorem triggerOne_added {id : Bytes32} {outcome : TriggerOutcome}
    (ok : triggerOne d msg x id = .ok (outcome, y)) :
    ∃ more, y.events = x.events ++ more ∧ ∀ s batchId, more.countP (toppedOn s batchId) =
      if outcome = .toppedUp ∧ (s.volumes id).batchId = batchId then 1 else 0 := by
  cases triggerOne_end ok with
  | idle status => exact ⟨_, World.events_emit .., fun _ _ => rfl⟩
  | retired active edge retired => exact ⟨_, World.events_emit .., fun _ _ => rfl⟩
  | noAuth due inactive => exact ⟨_, World.events_emit .., fun _ _ => rfl⟩
  | noDeficit due auth full => exact ⟨[], (List.append_nil _).symm, fun _ _ => rfl⟩
  | paymentFailed due auth short refused => exact ⟨_, World.events_emit .., fun _ _ => rfl⟩
  | toppedUp due auth short shifted payable pulled approved topped =>
    have quiet := (topUp_frame topped).2.1.trans
      ((approve_frame approved).2.1.trans (pull_frame pulled).2.1)
    refine ⟨_, (World.events_emit ..).trans (congrArg (· ++ _) quiet), fun s batchId => ?_⟩
    simp [List.countP_cons, toppedOn]

/-- One step: a batch already raised is at target and is not raised again. -/
theorem Gain.step (documented : d.Documented) {batchId : Bytes32} {added : List Event}
    (gain : Gain d w x batchId added) (later : Later d w x) {id : Bytes32}
    {outcome : TriggerOutcome} (ok : triggerOne d msg x id = .ok (outcome, y)) :
    ∃ more, y.events = x.events ++ more ∧ Gain d w y batchId (added ++ more) := by
  obtain ⟨more, events, count⟩ := triggerOne_added ok
  have here : (x.store.volumes id).batchId = (w.store.volumes id).batchId :=
    congrArg (·.2.2.1) (later.written id)
  refine ⟨more, events, ?_⟩
  by_cases hit : outcome = .toppedUp ∧ (w.store.volumes id).batchId = batchId
  · obtain ⟨rfl, rfl⟩ := hit
    obtain ⟨outpayment, due, short, raised⟩ := toppedUp_raised documented ok
    have read := due.read
    rw [later.block, later.postage.outpayment] at read
    have alive := due.alive
    have balance := raised.balance
    unfold Deployment.deficit at balance
    rw [later.postage.target] at short balance
    unfold Deployment.remaining Deployment.batchOf at short balance
    rw [here] at alive short balance
    cases gain with
    | untouched silent same =>
      refine .raised ?_ read (same ▸ alive) ?_
      · rw [List.countP_append, silent, count, if_pos ⟨rfl, rfl⟩]
      · rw [balance, same]
    | raised once read' alive' grown =>
      obtain rfl := Option.some.inj (read.symm.trans read')
      omega
  · have same : (d.stamp.batches y.postage batchId).normalisedBalance =
        (d.stamp.batches x.postage batchId).normalisedBalance := by
      rcases (triggerOne_outside documented ok).2 with ⟨_, same, _⟩ | ⟨topped, _, _, raised⟩
      · rw [same]
      · rw [raised.others batchId fun equal => hit ⟨topped, (here.symm.trans equal.symm)⟩]
    have total : (added ++ more).countP (toppedOn w.store batchId) =
        added.countP (toppedOn w.store batchId) := by
      rw [List.countP_append, count, if_neg hit, Nat.add_zero]
    cases gain with
    | untouched silent kept => exact .untouched (total.trans silent) (same.trans kept)
    | raised once read alive grown => exact .raised (total.trans once) read alive (same.trans grown)

theorem ran_gain (documented : d.Documented) (payers : ExternalPayers d w.store)
    {steps : List (TriggerStep T P)} (trace : Trace (Ran d) w steps y) (batchId : Bytes32) :
    ∃ added, y.events = w.events ++ added ∧ Gain d w y batchId added := by
  have both : Later d w y ∧ ∃ added, y.events = w.events ++ added ∧ Gain d w y batchId added := by
    refine trace.invariant (fun u => Later d w u ∧
      ∃ added, u.events = w.events ++ added ∧ Gain d w u batchId added) ?_ ?_
    · exact ⟨.refl w, [], (List.append_nil _).symm, .untouched rfl rfl⟩
    · rintro u step u' ⟨_, _, msg, ran⟩ ⟨later, added, events, gain⟩
      obtain ⟨more, grown, gain⟩ := gain.step documented later ran
      refine ⟨later.trans (triggerOne_later documented (later_payers payers later) ran), added ++ more,
        ?_, gain⟩
      rw [grown, events, List.append_assoc]
  exact both.2

/-- A batch that gained nothing was at target, or nothing on it was paid for. -/
theorem untouched_outcome (documented : d.Documented) (payers : ExternalPayers d w.store)
    {steps : List (TriggerStep T P)} (trace : Trace (Ran d) w steps y) {batchId : Bytes32}
    (same : (d.stamp.batches y.postage batchId).normalisedBalance =
      (d.stamp.batches w.postage batchId).normalisedBalance)
    {step : TriggerStep T P} (member : step ∈ steps)
    (rides : (w.store.volumes step.volumeId).batchId = batchId) :
    (∃ outpayment, d.stamp.currentTotalOutPayment w.block w.postage = some outpayment ∧
      d.target w.postage ≤
        (d.stamp.batches w.postage batchId).normalisedBalance - outpayment) ∨
    step.outcome = .retired ∨ step.outcome = .skipped := by
  obtain ⟨early, late, msg, ran⟩ := ran_between documented payers trace member
  have here : (step.before.store.volumes step.volumeId).batchId = batchId :=
    (congrArg (·.2.2.1) (early.written step.volumeId)).trans rides
  have middle := triggerOne_later documented (later_payers payers early) ran
  have low := early.postage.grown batchId
  have high := middle.postage.grown batchId
  have top := late.postage.grown batchId
  cases outcome : step.outcome with
  | retired => exact .inr (.inl rfl)
  | skipped => exact .inr (.inr rfl)
  | noDeficit =>
    rw [outcome] at ran
    obtain ⟨outpayment, due, full⟩ := noDeficit_full ran
    have read := due.read
    rw [early.block, early.postage.outpayment] at read
    refine .inl ⟨outpayment, read, ?_⟩
    rw [early.postage.target, Deployment.remaining, Deployment.batchOf, here] at full
    omega
  | toppedUp =>
    rw [outcome] at ran
    obtain ⟨outpayment, due, short, raised⟩ := toppedUp_raised documented ran
    have balance := raised.balance
    unfold Deployment.deficit at balance
    rw [here] at balance
    omega

/-! ## Repetition -/

/-- Steps that take from nobody but others leave a payer's balance. -/
theorem ran_spares (documented : d.Documented) (payers : ExternalPayers d x.store)
    {steps : List (TriggerStep T P)} (trace : Trace (Ran d) x steps y) {payer : Address}
    (external : External d payer)
    (spared : ∀ step ∈ steps, step.outcome = .toppedUp →
      (x.store.accounts (x.store.volumes step.volumeId).owner).payer ≠ payer) :
    d.token.balanceOf y.bzz payer = d.token.balanceOf x.bzz payer := by
  have both : Later d x y ∧ d.token.balanceOf y.bzz payer = d.token.balanceOf x.bzz payer := by
    refine (trace.restrict spared).invariant (fun u => Later d x u ∧
      d.token.balanceOf u.bzz payer = d.token.balanceOf x.bzz payer) ⟨.refl x, rfl⟩ ?_
    rintro u step u' ⟨⟨_, _, msg, ran⟩, spares⟩ ⟨later, same⟩
    have kept := later_payers payers later
    have settled := (triggerOne_settled documented kept ran).payers payer external.notRegistry
      external.notPostage
    have owner : (u.store.volumes step.volumeId).owner = (x.store.volumes step.volumeId).owner :=
      congrArg (·.1) (later.written step.volumeId)
    refine ⟨later.trans (triggerOne_later documented kept ran), ?_⟩
    rw [← same, ← settled]
    unfold TriggerStep.charge
    dsimp only
    split
    · rename_i topped
      rw [later.accounts, owner]
      simp [taken, spares topped]
    · rfl
  exact both.2

variable {w₀ : World T P}

/-- Idempotence of triggers in a block: over every sequence of trigger calls made at
any reachable world, with nothing else in between, a batch sees at most one
`Toppedup`, and its balance per chunk grows by nothing or by exactly what it lacked;
by nothing only if it was at target, or every volume triggered on it was retired or
skipped (on a dead batch every one is). When the sequence is repeated, a volume that a call has processed
is not topped up again, and a payer whose volumes have all been processed pays
nothing. -/
theorem batch_trigger_idempotence (documented : d.Documented) (deployed : Deployed d w₀)
    (reachable : Reachable d anything w₀ w) {calls : List (Msg × Call)}
    (triggers : ∀ c ∈ calls, isTrigger c.2 = true) (batchId : Bytes32) :
    let first := play d w calls
    let again := play d first.2 calls
    let steps := first.1.flatMap (processed d)
    let read := d.stamp.currentTotalOutPayment w.block w.postage
    let before := (d.stamp.batches w.postage batchId).normalisedBalance
    let after := (d.stamp.batches first.2.postage batchId).normalisedBalance
    (∃ added, first.2.events = w.events ++ added ∧
      added.countP (toppedOn w.store batchId) ≤ 1) ∧
    (after = before ∨ ∃ outpayment, read = some outpayment ∧ outpayment < before ∧
      after = before + (d.target w.postage - (before - outpayment))) ∧
    (after = before →
      (∃ outpayment, read = some outpayment ∧ d.target w.postage ≤ before - outpayment) ∨
      ∀ step ∈ steps, (w.store.volumes step.volumeId).batchId = batchId →
        step.outcome = .retired ∨ step.outcome = .skipped) ∧
    (∀ step ∈ steps, ∀ later ∈ again.1.flatMap (processed d),
      later.volumeId = step.volumeId → later.outcome ≠ .toppedUp) ∧
    ∀ payer, External d payer →
      (∀ c ∈ calls, ∀ id ∈ triggered c.2,
        (w.store.accounts (w.store.volumes id).owner).payer = payer →
        ∃ step ∈ steps, step.volumeId = id) →
      d.token.balanceOf again.2.bzz payer = d.token.balanceOf first.2.bzz payer := by
  intro first again steps read before after
  have payers : ExternalPayers d w.store := by
    obtain ⟨es, w₁, run, idle, _⟩ := reachable
    rw [idle.store]
    exact run_payers deployed run
  have trace : Trace (Ran d) w steps first.2 := play_ran triggers
  have retrace : Trace (Ran d) first.2 (again.1.flatMap (processed d)) again.2 := play_ran triggers
  have whole := ran_later documented payers trace
  have kept := later_payers payers whole
  have spent : ∀ step ∈ steps, ∀ later ∈ again.1.flatMap (processed d),
      later.volumeId = step.volumeId → later.outcome ≠ .toppedUp := by
    intro step member later listed same
    obtain ⟨early, late, msg, ran⟩ := ran_between documented payers trace member
    obtain ⟨between, _, msg', repeated⟩ := ran_between documented kept retrace listed
    rw [same] at repeated
    exact repeat_step documented (later_payers payers early) ran (late.trans between) repeated
  obtain ⟨added, events, gain⟩ := ran_gain documented payers trace batchId
  refine ⟨⟨added, events, ?_⟩, ?_, fun same => ?_, spent, fun payer external all => ?_⟩
  · cases gain with
    | untouched silent same => exact silent.trans_le (Nat.zero_le _)
    | raised once read alive grown => exact once.le
  · cases gain with
    | untouched silent same => exact .inl same
    | raised once read alive grown => exact .inr ⟨_, read, alive, grown⟩
  · refine or_iff_not_imp_left.mpr fun short step member rides => ?_
    exact (untouched_outcome documented payers trace same member rides).resolve_left short
  · refine ran_spares documented kept retrace external fun later listed topped pays => ?_
    obtain ⟨c, called, named⟩ := play_ids triggers listed
    have owner : (first.2.store.volumes later.volumeId).owner =
        (w.store.volumes later.volumeId).owner := congrArg (·.1) (whole.written later.volumeId)
    rw [whole.accounts, owner] at pays
    obtain ⟨step, member, same⟩ := all c called later.volumeId named pays
    exact spent step member later listed same.symm topped

/-- Two keepers trigger the sample volume three times between them. -/
def keepers : List (Msg × Call) :=
  [(⟨0xD, 5⟩, .trigger Sample.first), (⟨0xE, 6⟩, .triggerMany [Sample.first, Sample.first])]

theorem keepers_ids {c : Msg × Call} (called : c ∈ keepers) {id : Bytes32}
    (named : id ∈ triggered c.2) : id = Sample.first := by
  rcases List.mem_cons.mp called with rfl | called
  · exact List.mem_singleton.mp named
  · obtain rfl := List.mem_singleton.mp called
    simpa [triggered] using named

theorem batch_trigger_idempotence_sample :
    let first := play Sample.deployment Sample.enrolled keepers
    let again := play Sample.deployment first.2 keepers
    (∃ added, first.2.events = Sample.enrolled.events ++ added ∧
      added.countP (toppedOn Sample.enrolled.store Sample.batch) ≤ 1) ∧
    Sample.deployment.token.balanceOf again.2.bzz Sample.payer =
      Sample.deployment.token.balanceOf first.2.bzz Sample.payer := by
  obtain ⟨once, _, _, _, spared⟩ := batch_trigger_idempotence Sample.documented Sample.deployed
    ⟨_, _, Sample.enrolled_run fun _ => trivial, .refl _, trivial⟩
    (by decide : ∀ c ∈ keepers, isTrigger c.2 = true) Sample.batch
  refine ⟨once, spared Sample.payer (by decide) fun c called id named _ => ?_⟩
  have ids : ((play Sample.deployment Sample.enrolled keepers).1.flatMap
      (processed Sample.deployment)).map TriggerStep.volumeId =
      [Sample.first, Sample.first, Sample.first] := by decide +kernel
  obtain rfl := keepers_ids called named
  exact List.mem_map.mp (ids ▸ List.mem_cons_self ..)

end SwarmVolumes.Guarantees.TriggerIdempotence
