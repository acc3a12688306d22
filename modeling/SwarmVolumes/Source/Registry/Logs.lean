import SwarmVolumes.Library.Timeline
import SwarmVolumes.Source.Registry.Payments

/-!
# Logs of a run

A call appends its logs, all of them in its own block; so the log of a run is
what its calls logged, one after another, and cutting a run at a time cuts its
log at that time. What the log says went from the registry to PostageStamp is
what PostageStamp's balance rose by.
-/
namespace SwarmVolumes.Source
open Library Library.Erc20

variable {T P : Type} {d : Deployment T P} {msg : Msg} {w w' w'' : World T P}

/-- `w'` logs what `w` did, and more in the block of `w`. -/
def Extends (w w' : World T P) : Prop :=
  ∃ more, w'.logs = w.logs ++ more ∧ ∀ r ∈ more, r.block = w.block

namespace Extends

theorem refl (w : World T P) : Extends w w := ⟨[], (List.append_nil _).symm, by simp⟩

theorem emit (w : World T P) (msg : Msg) (e : Event) : Extends w (w.emit msg e) :=
  ⟨_, rfl, by simp⟩

theorem absorb (w : World T P) (msg : Msg) (logs : List CalleeLog) :
    Extends w (w.absorb msg logs) :=
  ⟨_, rfl, by simp⟩

theorem trans (first : Extends w w') (block : w'.block = w.block) (second : Extends w' w'') :
    Extends w w'' := by
  obtain ⟨more, grown, here⟩ := first
  obtain ⟨rest, further, there⟩ := second
  refine ⟨more ++ rest, by rw [further, grown, List.append_assoc], fun r member => ?_⟩
  rcases List.mem_append.mp member with early | late
  · exact here r early
  · exact (there r late).trans block

end Extends

theorem pull_logs {payer : Address} {amount : Nat} (ok : pull d msg w payer amount = .ok w') :
    Extends w w' := by
  obtain ⟨bzz, logs, _, rfl⟩ := pull_success ok
  exact .absorb { w with bzz } msg logs

theorem approve_logs {amount : Nat} (ok : approve d msg w amount = .ok w') : Extends w w' := by
  obtain ⟨bzz, logs, _, rfl⟩ := approve_success ok
  exact .absorb { w with bzz } msg logs

theorem Effect.logs {e : Event} (effect : Effect d msg w e w') : Extends w w' := by
  cases effect with
  | designated payer => exact .emit _ msg _
  | activated owner named => exact .emit _ msg _
  | revoked owner allowed => exact .emit _ msg _
  | created auth signer shifted pulled approved made recorded =>
    obtain ⟨_, _, block₁, _⟩ := pull_frame pulled
    obtain ⟨_, _, block₂, _⟩ := approve_frame approved
    have paid := (pull_logs pulled).trans block₁ (approve_logs approved)
    obtain ⟨reply, _, rfl⟩ := createBatch_success made
    exact (paid.trans (block₂.trans block₁) (.absorb _ msg reply.logs)).trans
      (block₂.trans block₁) (.emit _ msg _)
  | imported auth live deep recorded => exact .emit _ msg _
  | retired active retired named => exact .emit _ msg _
  | toppedUp due auth shifted pulled approved topped =>
    obtain ⟨_, _, block₁, _⟩ := pull_frame pulled
    obtain ⟨_, _, block₂, _⟩ := approve_frame approved
    have paid := (pull_logs pulled).trans block₁ (approve_logs approved)
    obtain ⟨reply, _, rfl⟩ := topUp_success topped
    exact (paid.trans (block₂.trans block₁) (.absorb _ msg reply.logs)).trans
      (block₂.trans block₁) (.emit _ msg _)
  | skipped guarded => exact .emit _ msg _

theorem Effect.trace_logs {events : List Event} (trace : Trace (Effect d msg) w events w') :
    Extends w w' ∧ w'.block = w.block := by
  refine trace.invariant (fun u => Extends w u ∧ u.block = w.block) ⟨.refl w, rfl⟩ ?_
  rintro u e u' effect ⟨extended, block⟩
  exact ⟨extended.trans block effect.logs, effect.store.2.2.trans block⟩

/-- What the call of an entry logged. -/
def Entry.added (e : Entry T P) : List Record := e.after.logs.drop e.before.logs.length

def Entry.block (e : Entry T P) : Block := e.before.block

/-- The block does not go back: a later one has a higher number and a later time. -/
def Block.NotAfter (a b : Block) : Prop :=
  a = b ∨ a.number < b.number ∧ a.timestamp < b.timestamp

theorem Block.NotAfter.trans {a b c : Block} (first : a.NotAfter b) (second : b.NotAfter c) :
    a.NotAfter c := by
  rcases first with rfl | first
  · exact second
  · rcases second with rfl | second
    · exact .inr first
    · exact .inr ⟨first.1.trans second.1, first.2.trans second.2⟩

theorem Block.NotAfter.timestamp {a b : Block} (notAfter : a.NotAfter b) :
    a.timestamp ≤ b.timestamp := by
  rcases notAfter with rfl | later
  · exact Nat.le_refl _
  · exact later.2.le

/-- Between calls the chain moves on, block by block. -/
def ticks (w w' : World T P) : Prop := w.block.NotAfter w'.block

variable {outside : World T P → World T P → Prop} {w₀ : World T P} {es : List (Entry T P)}

theorem CallStep.logs {e : Entry T P} (step : CallStep d outside w e w') :
    w'.logs = w.logs ++ e.added ∧ (∀ r ∈ e.added, r.block = e.block) ∧ w'.block = e.block := by
  obtain ⟨⟨more, grown, here⟩, block⟩ : Extends e.before e.after ∧ e.after.block = e.before.block := by
    cases same : e.result with
    | error r =>
      rw [Entry.after_of_error same]
      exact ⟨.refl _, rfl⟩
    | ok pair =>
      obtain ⟨events, trace, _⟩ := execute_effects (step.executed.symm.trans same)
      rw [Entry.after_of_ok same]
      exact Effect.trace_logs trace
  have added : e.added = more := by
    rw [Entry.added, grown, List.drop_left]
  rw [added, step.left, ← step.idle.logs]
  exact ⟨grown, here, block⟩

/-- The log of a run is what its calls logged. -/
theorem run_logs (deployed : Deployed d w₀) (run : Run d outside w₀ es w) :
    w.logs = es.flatMap Entry.added ∧ ∀ e ∈ es, ∀ r ∈ e.added, r.block = e.block := by
  refine Trace.history (fun es w => w.logs = es.flatMap Entry.added ∧
    ∀ e ∈ es, ∀ r ∈ e.added, r.block = e.block) ⟨deployed.unlogged, by simp⟩ ?_ run
  rintro es w e w' _ step ⟨logs, blocks⟩
  obtain ⟨grown, here, _⟩ := step.logs
  refine ⟨by rw [grown, logs, List.flatMap_append, List.flatMap_singleton], fun x member => ?_⟩
  rcases List.mem_append.mp member with early | last
  · exact blocks x early
  · rw [List.mem_singleton.mp last]
    exact here

/-- The blocks of a run do not go back. -/
theorem run_blocks (run : Run d ticks w₀ es w) :
    (es.Pairwise fun a b => a.block.NotAfter b.block) ∧
    (∀ e ∈ es, w₀.block.NotAfter e.block ∧ e.block.NotAfter w.block) ∧
    w₀.block.NotAfter w.block := by
  refine Trace.history (fun es w => (es.Pairwise fun a b => a.block.NotAfter b.block) ∧
    (∀ e ∈ es, w₀.block.NotAfter e.block ∧ e.block.NotAfter w.block) ∧
    w₀.block.NotAfter w.block) ⟨.nil, by simp, .inl rfl⟩ ?_ run
  rintro es w e w' _ step ⟨ordered, bounds, started⟩
  have moved : w.block.NotAfter e.block := step.moved
  have block := step.logs.2.2
  refine ⟨List.pairwise_append.mpr ⟨ordered, List.pairwise_singleton .., ?_⟩, fun x member => ?_, ?_⟩
  · intro a early b last
    rw [List.mem_singleton.mp last]
    exact (bounds a early).2.trans moved
  · rw [block]
    rcases List.mem_append.mp member with early | last
    · exact ⟨(bounds x early).1, (bounds x early).2.trans moved⟩
    · rw [List.mem_singleton.mp last]
      exact ⟨started.trans moved, .inl rfl⟩
  · rw [block]
    exact started.trans moved

def Entry.time (e : Entry T P) : Nat := e.block.timestamp
def Record.time (r : Record) : Nat := r.block.timestamp

/-- The log of a run is in block order. -/
theorem run_log_order (deployed : Deployed d w₀) (run : Run d ticks w₀ es w) :
    w.logs.Pairwise fun a b => a.block.NotAfter b.block := by
  obtain ⟨logs, blocks⟩ := run_logs deployed run
  rw [logs, List.pairwise_flatMap]
  refine ⟨fun e member => ?_, ?_⟩
  · refine List.pairwise_of_forall_mem_list fun a first b second => .inl ?_
    rw [blocks e member a first, blocks e member b second]
  · refine (run_blocks run).1.imp_of_mem fun {e e'} first second notAfter r added r' added' => ?_
    rw [blocks e first r added, blocks e' second r' added']
    exact notAfter

/-- The storage of a run after its last call up to `cutoff`. -/
def storeAt (es : List (Entry T P)) (cutoff : Nat) : Storage :=
  ((before Entry.time cutoff es).getLast?.map fun e => e.after.store).getD .empty

theorem run_store (deployed : Deployed d w₀) (run : Run d outside w₀ es w) :
    w.store = (es.getLast?.map fun e => e.after.store).getD .empty := by
  cases run with
  | nil => exact deployed.store
  | snoc before last => simp [last.left]

/-- Cutting a run at a time cuts its log there. -/
theorem run_before (deployed : Deployed d w₀) (run : Run d ticks w₀ es w) (cutoff : Nat) :
    ∃ mid, Run d ticks w₀ (before Entry.time cutoff es) mid ∧
      mid.logs = before Record.time cutoff w.logs := by
  have ordered := (run_blocks run).1.imp fun notAfter => notAfter.timestamp
  obtain ⟨logs, blocks⟩ := run_logs deployed run
  rw [← before_append_after ordered cutoff] at run
  obtain ⟨mid, first, _⟩ := run.split
  refine ⟨mid, first, ?_⟩
  rw [(run_logs deployed first).1, logs]
  exact (before_flatMap (fun e member r added =>
    congrArg Block.timestamp (blocks e member r added)) cutoff).symm

/-! ## What the log says was forwarded -/

/-- The value of a transfer from the registry to PostageStamp. -/
def Deployment.toPostage (d : Deployment T P) (transfer : Address × Address × Nat) : Option Nat :=
  if transfer.1 = d.address ∧ transfer.2.1 = d.postage then some transfer.2.2 else none

/-- The sum of the transfers from the registry to PostageStamp. -/
def Deployment.forwarded (d : Deployment T P) (records : List Record) : Nat :=
  ((records.filterMap Record.transfer?).filterMap d.toPostage).sum

theorem forwarded_append (first second : List Record) :
    d.forwarded (first ++ second) = d.forwarded first + d.forwarded second := by
  simp [Deployment.forwarded]

/-- What PostageStamp received during a call. -/
def Entry.received (d : Deployment T P) (e : Entry T P) : Nat :=
  d.token.balanceOf e.after.bzz d.postage - d.token.balanceOf e.before.bzz d.postage

theorem Paid.forwarded (documented : d.Documented) {payer : Address} {amount : Nat}
    (paid : Paid d w w' payer amount) (external : External d payer) :
    d.token.balanceOf w'.bzz d.postage + d.forwarded w.logs =
      d.token.balanceOf w.bzz d.postage + d.forwarded w'.logs := by
  have balance := (paid.passed.balances documented.token.toStandard external.notRegistry
    documented.apart).2 d.postage
  have logged : d.forwarded w'.logs = d.forwarded w.logs + amount := by
    change ((w'.transfers).filterMap d.toPostage).sum = (w.transfers.filterMap d.toPostage).sum + _
    rw [paid.transfers]
    simp [Deployment.toPostage, external.notRegistry]
  rw [balance, logged, moved, if_neg documented.apart.symm, if_pos rfl, moved,
    if_neg external.notPostage.symm, if_neg documented.apart.symm]
  omega

/-- An effect raises PostageStamp's balance by what it logs. -/
theorem Effect.forwarded (documented : d.Documented) (payers : ExternalPayers d w.store) {e : Event}
    (effect : Effect d msg w e w') :
    d.token.balanceOf w'.bzz d.postage + d.forwarded w.logs =
      d.token.balanceOf w.bzz d.postage + d.forwarded w'.logs := by
  have silent : ∀ (u : World T P) (e : Event), d.forwarded (u.emit msg e).logs = d.forwarded u.logs :=
    fun u e => congrArg (fun transfers => (List.filterMap d.toPostage transfers).sum)
      (World.transfers_emit u msg e)
  cases effect with
  | designated payer => exact congrArg _ (silent w _).symm
  | activated owner named => exact congrArg _ (silent w _).symm
  | revoked owner allowed => exact congrArg _ (silent w _).symm
  | created auth signer shifted pulled approved made recorded =>
    obtain ⟨_, paid⟩ := createBatch_paid documented shifted pulled approved made
    exact (paid.forwarded documented (payers _ auth)).trans (congrArg _ (silent _ _).symm)
  | imported auth live deep recorded => exact congrArg _ (silent w _).symm
  | retired active retired named => exact congrArg _ (silent w _).symm
  | toppedUp due auth shifted pulled approved topped =>
    obtain ⟨_, paid⟩ := topUp_paid documented shifted due.depth pulled approved topped
    exact (paid.forwarded documented (payers _ auth)).trans (congrArg _ (silent _ _).symm)
  | skipped guarded => exact congrArg _ (silent w _).symm

theorem CallStep.received (documented : d.Documented) (payers : ExternalPayers d w.store)
    {e : Entry T P} (step : CallStep d outside w e w') : e.received d = d.forwarded e.added := by
  have balance : d.token.balanceOf e.after.bzz d.postage + d.forwarded e.before.logs =
      d.token.balanceOf e.before.bzz d.postage + d.forwarded e.after.logs := by
    cases same : e.result with
    | error r => rw [Entry.after_of_error same]
    | ok pair =>
      obtain ⟨events, trace, _⟩ := execute_effects (step.executed.symm.trans same)
      rw [Entry.after_of_ok same]
      rw [← step.idle.store] at payers
      refine (trace.invariant (fun u => ExternalPayers d u.store ∧
        d.token.balanceOf u.bzz d.postage + d.forwarded e.before.logs =
          d.token.balanceOf e.before.bzz d.postage + d.forwarded u.logs) ⟨payers, rfl⟩ ?_).2
      rintro u event u' effect ⟨payers, balance⟩
      have more := effect.forwarded documented payers
      refine ⟨payers.step step.external effect.store.1, ?_⟩
      omega
  have logs := step.logs.1
  rw [step.left, ← step.idle.logs] at logs
  rw [logs, forwarded_append] at balance
  rw [Entry.received]
  omega

theorem run_received (documented : d.Documented) (deployed : Deployed d w₀)
    (run : Run d outside w₀ es w) : ∀ e ∈ es, e.received d = d.forwarded e.added := by
  refine Trace.history (fun es _ => ∀ e ∈ es, e.received d = d.forwarded e.added) (by simp) ?_ run
  intro es w e w' before step held x member
  rcases List.mem_append.mp member with early | last
  · exact held x early
  · rw [List.mem_singleton.mp last]
    exact step.received documented (run_payers deployed before)

end SwarmVolumes.Source
