import Mathlib
import SwarmVolumes.Guarantees.CycleAccounting
import SwarmVolumes.Guarantees.Enumeration
import SwarmVolumes.Guarantees.Receipts
import SwarmVolumes.Source.Registry.Logs

/-!
# The keeper on a chain

A cycle talks to a node, the node to a chain that others use too. Every transaction the
cycle reports as a success is a call of the chain's run, made while the cycle was under
way and in the order of the report. What the report says of it is what the registry did,
and the amounts it adds up are the BZZ PostageStamp received.
-/
namespace SwarmVolumes.Guarantees.KeeperOnChain
open Library Source Source.Keeper CycleAccounting Receipts Erc20

variable {T P ω : Type} {d : Deployment T P} {outside : World T P → World T P → Prop}
variable {w₀ : World T P} {stray : CalleeLog → Option KeeperEvent}

/-- What a client's world is of a chain: the calls of the registry so far, where they left
it, and the transaction that a hash is of. -/
structure Chain (T P ω : Type) where
  entries : ω → List (Entry T P)
  world : ω → World T P
  transaction : Bytes32 → Option Transaction

/-- The calls `es` take the registry from `w` to `w'`, where others may have acted since. -/
def Goes (d : Deployment T P) (outside : World T P → World T P → Prop) (w : World T P)
    (es : List (Entry T P)) (w' : World T P) : Prop :=
  ∃ w₁, Run d outside w es w₁ ∧ Idle w₁ w' ∧ outside w₁ w'

/-- The chain has gone on from `x` to `x'`. -/
def Later (d : Deployment T P) (outside : World T P → World T P → Prop) (chain : Chain T P ω)
    (x x' : ω) : Prop :=
  ∃ more, chain.entries x' = chain.entries x ++ more ∧
    Goes d outside (chain.world x) more (chain.world x')

/-- While a request is under way the chain may go on. -/
def Grows {α : Type} (d : Deployment T P) (outside : World T P → World T P → Prop)
    (chain : Chain T P ω) (request : Request ω α) : Prop :=
  ∀ x, Later d outside chain x (request x).2

/-- A call that a receipt is of. -/
structure Confirms (d : Deployment T P) (stray : CalleeLog → Option KeeperEvent) (hash : Bytes32)
    (volumeId : Bytes32) (receipt : Receipt) (e : Entry T P) : Prop where
  tx : e.msg.tx = hash
  call : e.call = .trigger volumeId
  succeeded : e.Succeeded
  block : receipt.blockNumber = e.block.number
  logs : receipt.logs = receiptLogs d stray e.before e.after

/-- A node that serves a run of the registry: while it answers others may act, a transaction
it accepts is new, and the receipt of a success is that of the call the transaction made. -/
structure Serves (d : Deployment T P) (outside : World T P → World T P → Prop) (w₀ : World T P)
    (stray : CalleeLog → Option KeeperEvent) (chain : Chain T P ω) (client : Client ω) : Prop where
  still : ∀ w, outside w w
  moves : ∀ a b c, outside a b → outside b c → outside a c
  run : ∀ x, Goes d outside w₀ (chain.entries x) (chain.world x)
  getBlockNumber : Grows d outside chain client.getBlockNumber
  getActiveVolumeCount : ∀ registry block,
    Grows d outside chain (client.getActiveVolumeCount registry block)
  getActiveVolumes : ∀ registry block pages,
    Grows d outside chain (client.getActiveVolumes registry block pages)
  getVolumes : ∀ registry block ids, Grows d outside chain (client.getVolumes registry block ids)
  readNonceAndFees : Grows d outside chain client.readNonceAndFees
  simulateContract : ∀ registry id, Grows d outside chain (client.simulateContract registry id)
  estimateContractGas : ∀ registry id, Grows d outside chain (client.estimateContractGas registry id)
  writeContract : ∀ tx, Grows d outside chain (client.writeContract tx)
  waitForTransactionReceipt : ∀ hash confirmations timeout,
    Grows d outside chain (client.waitForTransactionReceipt hash confirmations timeout)
  accepted : ∀ {tx x hash x'}, client.writeContract tx x = (.ok hash, x') →
    chain.transaction hash = some tx ∧ ∀ e ∈ chain.entries x, e.msg.tx ≠ hash
  mined : ∀ {hash confirmations timeout x receipt x'},
    client.waitForTransactionReceipt hash confirmations timeout x = (.ok receipt, x') →
    receipt.status = .success → ∀ tx, chain.transaction hash = some tx → tx.registry = d.address →
    ∃ e ∈ chain.entries x', Confirms d stray hash tx.volumeId receipt e

/-- A call of the chain and what the cycle reports of it. -/
structure Mined (d : Deployment T P) (stray : CalleeLog → Option KeeperEvent) (v : VolumeResult)
    (e : Entry T P) : Prop where
  hash : v.hash = some e.msg.tx
  call : e.call = .trigger v.volumeId
  succeeded : e.Succeeded
  block : v.blockNumber = some e.block.number
  summary : v.summary = some (summary d stray e.before e.after v.volumeId)

/-- The attempts that ended with a transaction that succeeded. -/
def successes (volumes : List VolumeResult) : List VolumeResult :=
  volumes.filter fun v => v.status = .success

/-! ## Requests -/

variable {chain : Chain T P ω} {client : Client ω} {par : Parameters} {c c' : Keeper.Cycle ω}
variable {x x' x'' : ω}

theorem Goes.refl (still : ∀ w, outside w w) (w : World T P) : Goes d outside w [] w :=
  ⟨w, .nil, .refl w, still w⟩

theorem Goes.trans (moves : ∀ a b c : World T P, outside a b → outside b c → outside a c)
    {w w' w'' : World T P} {es es' : List (Entry T P)} (first : Goes d outside w es w')
    (second : Goes d outside w' es' w'') : Goes d outside w (es ++ es') w'' := by
  obtain ⟨w₁, run, idle, moved⟩ := first
  obtain ⟨w₂, run', idle', moved'⟩ := second
  cases es' with
  | nil =>
    have same := run'.nil_eq
    subst same
    rw [List.append_nil]
    exact ⟨w₁, run, ⟨idle'.store.trans idle.store, idle'.logs.trans idle.logs⟩, moves _ _ _ moved moved'⟩
  | cons e es' =>
    obtain ⟨mid, step, rest⟩ := run'.uncons
    have joined : CallStep d outside w₁ e mid :=
      ⟨⟨step.idle.store.trans idle.store, step.idle.logs.trans idle.logs⟩, moves _ _ _ moved step.moved,
        step.external, step.executed, step.left⟩
    exact ⟨w₂, run.append (.cons joined rest), idle', moved'⟩

theorem Later.refl (still : ∀ w, outside w w) (x : ω) : Later d outside chain x x :=
  ⟨[], (List.append_nil _).symm, .refl still _⟩

theorem Later.mem (later : Later d outside chain x x') {e : Entry T P} (member : e ∈ chain.entries x) :
    e ∈ chain.entries x' := by
  obtain ⟨more, grown, _⟩ := later
  rw [grown]
  exact List.mem_append_left _ member

theorem Grows.asked {α : Type} {request : Request ω α} (grows : Grows d outside chain request)
    {answer : Except Thrown α} (asked : c.ask request = (answer, c')) :
    Later d outside chain c.world c'.world := by
  have grown := grows c.world
  unfold Cycle.ask at asked
  injection asked with _ same
  subst same
  exact grown

theorem asked_reply {α : Type} {request : Request ω α} {answer : Except Thrown α}
    (asked : c.ask request = (answer, c')) : request c.world = (answer, c'.world) := by
  unfold Cycle.ask at asked
  injection asked with first second
  subst first
  subst second
  rfl

namespace Serves

theorem join (serves : Serves d outside w₀ stray chain client) (first : Later d outside chain x x')
    (second : Later d outside chain x' x'') : Later d outside chain x x'' := by
  obtain ⟨more, grown, goes⟩ := first
  obtain ⟨more', grown', goes'⟩ := second
  refine ⟨more ++ more', ?_, goes.trans serves.moves goes'⟩
  rw [grown', grown, List.append_assoc]

theorem readSending (serves : Serves d outside w₀ stray chain client) {answer : Except Thrown Sending}
    (read : readSending client c = (answer, c')) : Later d outside chain c.world c'.world := by
  unfold Keeper.readSending at read
  split at read
  · rename_i asked
    cases read
    exact serves.readNonceAndFees.asked asked
  · rename_i asked
    cases read
    exact serves.readNonceAndFees.asked asked

theorem useSending (serves : Serves d outside w₀ stray chain client) {answer : Except Thrown Sending}
    (used : useSending client c = (answer, c')) : Later d outside chain c.world c'.world := by
  unfold Keeper.useSending at used
  split at used
  · cases used
    exact Later.refl serves.still _
  · split at used
    · rename_i read
      cases used
      exact serves.readSending read
    · rename_i read
      cases used
      exact (serves.readSending read :)

/-- A transaction that was sent is new to the chain. -/
theorem triggerVolume (serves : Serves d outside w₀ stray chain client) {volumeId : Bytes32}
    {sending : Sending} {answer : Except Thrown Bytes32}
    (sent : triggerVolume client par volumeId sending c = (answer, c')) :
    Later d outside chain c.world c'.world ∧ ∀ hash, answer = .ok hash →
      (∃ tx, chain.transaction hash = some tx ∧ tx.registry = par.registry ∧ tx.volumeId = volumeId) ∧
      ∀ e ∈ chain.entries c.world, e.msg.tx ≠ hash := by
  unfold Keeper.triggerVolume at sent
  split at sent
  · rename_i asked
    cases sent
    exact ⟨(serves.estimateContractGas _ _).asked asked, by simp⟩
  · rename_i estimate c₁ asked
    have first := (serves.estimateContractGas _ _).asked asked
    refine ⟨serves.join first ((serves.writeContract _).asked sent), ?_⟩
    intro hash same
    subst same
    obtain ⟨named, fresh⟩ := serves.accepted (asked_reply sent)
    exact ⟨⟨_, named, rfl, rfl⟩, fun e member => fresh e (first.mem member)⟩

theorem record_world (volumeId hash : Bytes32) (summary : VolumeSummary) :
    (record c volumeId hash summary).world = c.world := by
  cases summary with
  | _ => rfl

/-- A receipt of a success is that of a call. -/
theorem settle (serves : Serves d outside w₀ stray chain client) {volumeId hash : Bytes32}
    {tx : Transaction} (named : chain.transaction hash = some tx) (registry : tx.registry = d.address)
    (same : tx.volumeId = volumeId) (own : par.registry = d.address)
    {answer : Except Thrown VolumeResult} (settled : settle client par volumeId hash c = (answer, c')) :
    Later d outside chain c.world c'.world ∧ ∀ v, answer = .ok v → v.status = .success →
      ∃ e ∈ chain.entries c'.world, e.msg.tx = hash ∧ Mined d stray v e := by
  unfold Keeper.settle at settled
  split at settled
  · rename_i asked
    cases settled
    exact ⟨(serves.waitForTransactionReceipt _ _ _).asked asked, by simp⟩
  · rename_i receipt c₁ asked
    have grown := (serves.waitForTransactionReceipt _ _ _).asked asked
    dsimp only at settled
    split at settled
    · cases settled
      refine ⟨grown, ?_⟩
      intro v same success
      cases same
      cases success
    · rename_i succeeded
      cases settled
      rw [record_world]
      refine ⟨grown, ?_⟩
      intro v told _
      cases told
      obtain ⟨e, member, confirms⟩ :=
        serves.mined (asked_reply asked) (not_not.mp succeeded) tx named registry
      refine ⟨e, member, confirms.tx, ?_⟩
      subst same
      constructor
      · simp [confirms.tx]
      · exact confirms.call
      · exact confirms.succeeded
      · simp [confirms.block]
      · simp [confirms.logs, Receipts.summary, own]

/-- One attempt: a success is a call that was not on the chain before. -/
theorem sendOne (serves : Serves d outside w₀ stray chain client) (own : par.registry = d.address)
    (volumeId : Bytes32) (c : Keeper.Cycle ω) :
    Later d outside chain c.world (sendOne client par volumeId c).2.world ∧
      ((sendOne client par volumeId c).1.status = .success →
        ∃ e ∈ chain.entries (sendOne client par volumeId c).2.world,
          e ∉ chain.entries c.world ∧ Mined d stray (sendOne client par volumeId c).1 e) := by
  unfold Keeper.sendOne
  split
  · split
    · rename_i asked
      have grown := (serves.simulateContract _ _).asked asked
      exact ⟨grown, by simp [failOne]⟩
    · rename_i asked
      exact ⟨(serves.simulateContract _ _).asked asked, by simp⟩
  · split
    · rename_i used
      have first := serves.useSending used
      exact ⟨first, by simp [failOne]⟩
    · rename_i used
      have first := serves.useSending used
      split
      · rename_i sent
        exact ⟨serves.join first (serves.triggerVolume sent).1, by simp [failOne]⟩
      · rename_i hash c₂ sent
        obtain ⟨second, told⟩ := serves.triggerVolume sent
        obtain ⟨⟨tx, named, registry, same⟩, fresh⟩ := told hash rfl
        dsimp only
        split
        · rename_i settled
          have third := (serves.settle named (registry.trans own) same own settled).1
          exact ⟨serves.join (serves.join first second) third, by simp [failOne]⟩
        · rename_i v c₃ settled
          obtain ⟨third, confirmed⟩ := serves.settle named (registry.trans own) same own settled
          refine ⟨serves.join (serves.join first second) third, fun success => ?_⟩
          obtain ⟨e, member, tx, mined⟩ := confirmed v rfl success
          exact ⟨e, member, fun early => fresh e (first.mem early) tx, mined⟩

theorem collectActiveVolumes (serves : Serves d outside w₀ stray chain client) (registry : Address)
    (pageSize : Nat) (block : BitVec 256) :
    Grows d outside chain (collectActiveVolumes client registry pageSize block) := by
  intro x
  unfold Keeper.collectActiveVolumes
  split
  · exact Later.refl serves.still x
  · have counted := serves.getActiveVolumeCount registry block x
    split
    · rename_i replied
      rwa [replied] at counted
    · rename_i total x₁ replied
      rw [replied] at counted
      split
      · exact counted
      · have listed := serves.getActiveVolumes registry block (pageArgs total pageSize) x₁
        split
        · rename_i replied
          rw [replied] at listed
          exact serves.join counted listed
        · rename_i replied
          rw [replied] at listed
          exact serves.join counted listed

theorem sortViews_world (views : List (VolumeView × Bytes32)) (ids : List Bytes32) :
    (views.foldl sortView (ids, c)).2.world = c.world := by
  induction views generalizing ids c with
  | nil => rfl
  | cons view views ih =>
    rw [List.foldl_cons, sortView]
    split
    · exact ih _
    · exact ih _

theorem collectIds (serves : Serves d outside w₀ stray chain client) {block : BitVec 256}
    {answer : Except Thrown (List Bytes32)} (collected : collectIds client par block c = (answer, c')) :
    Later d outside chain c.world c'.world := by
  unfold Keeper.collectIds at collected
  split at collected
  · split at collected
    · rename_i asked
      cases collected
      exact (serves.collectActiveVolumes _ _ _).asked asked
    · rename_i asked
      cases collected
      exact (serves.collectActiveVolumes _ _ _).asked asked
  · split at collected
    · rename_i asked
      cases collected
      exact (serves.getVolumes _ _ _).asked asked
    · rename_i asked
      cases collected
      rw [sortViews_world]
      exact (serves.getVolumes _ _ _).asked asked

theorem enumerate (serves : Serves d outside w₀ stray chain client)
    {answer : Except Thrown (BitVec 256 × List Bytes32)}
    (enumerated : enumerate client par c = (answer, c')) : Later d outside chain c.world c'.world := by
  unfold Keeper.enumerate at enumerated
  split at enumerated
  · rename_i asked
    cases enumerated
    exact serves.getBlockNumber.asked asked
  · rename_i asked
    have first := serves.getBlockNumber.asked asked
    dsimp only at enumerated
    split at enumerated
    · rename_i collected
      cases enumerated
      have second := serves.collectIds collected
      exact serves.join first second
    · rename_i collected
      cases enumerated
      have second := serves.collectIds collected
      exact serves.join first second

end Serves

/-! ## The cycle -/

theorem push_world (volume : VolumeResult) : (push c volume).world = c.world := by
  unfold Keeper.push
  dsimp only
  split
  · rfl
  · rfl

/-- The successes of a trace of attempts, one after another, are calls the chain gained. -/
theorem trace_mined (serves : Serves d outside w₀ stray chain client) (own : par.registry = d.address)
    {tries : List Attempt} (trace : Trace (Tries client par) c tries c') :
    ∃ more mined, chain.entries c'.world = chain.entries c.world ++ more ∧
      Goes d outside (chain.world c.world) more (chain.world c'.world) ∧ mined.Sublist more ∧
      List.Forall₂ (Mined d stray) (successes (tries.map Attempt.volume)) mined := by
  refine trace.history (fun tries c' => ∃ more mined,
    chain.entries c'.world = chain.entries c.world ++ more ∧
      Goes d outside (chain.world c.world) more (chain.world c'.world) ∧ mined.Sublist more ∧
      List.Forall₂ (Mined d stray) (successes (tries.map Attempt.volume)) mined)
    ⟨[], [], (List.append_nil _).symm, .refl serves.still _, .slnil, .nil⟩ ?_
  intro tries c₁ t c₂ _ step held
  obtain ⟨more, mined, grown, goes, listed, all⟩ := held
  obtain ⟨⟨next, further, went⟩, told⟩ := serves.sendOne own t.volumeId c₁
  rw [← step.volume] at told
  have left : c₂.world = (sendOne client par t.volumeId c₁).2.world := by
    rw [step.left, push_world]
  have whole : chain.entries c₂.world = chain.entries c.world ++ (more ++ next) := by
    rw [left, further, grown, List.append_assoc]
  have path := goes.trans serves.moves went
  rw [← left] at path
  unfold successes
  rw [List.map_append, List.filter_append, List.map_singleton]
  by_cases success : t.volume.status = .success
  · obtain ⟨e, member, fresh, confirmed⟩ := told success
    have here : e ∈ next := by
      rw [further] at member
      exact (List.mem_append.mp member).resolve_left fresh
    refine ⟨more ++ next, mined ++ [e], whole, path, listed.append (List.singleton_sublist.mpr here), ?_⟩
    rw [List.filter_cons_of_pos (by simpa using success)]
    exact List.rel_append all (.cons confirmed .nil)
  · refine ⟨more ++ next, mined, whole, path, listed.trans (List.sublist_append_left _ _), ?_⟩
    rw [List.filter_cons_of_neg (by simpa using success), List.filter_nil, List.append_nil]
    exact all

/-- The attempts of a cycle that read its volumes in the cycle `c`. -/
theorem attempts_mined (serves : Serves d outside w₀ stray chain client)
    (own : par.registry = d.address) {keccak256 : BitVec 256 → BitVec 256} {x : ω}
    {block : BitVec 256} {ids : List Bytes32}
    (read : enumerate client par (.start par x) = (.ok (block, ids), c)) :
    ∃ more mined, chain.entries (runKeeperCycle client keccak256 par x).2 =
        chain.entries c.world ++ more ∧
      Goes d outside (chain.world c.world) more
        (chain.world (runKeeperCycle client keccak256 par x).2) ∧ mined.Sublist more ∧
      List.Forall₂ (Mined d stray) (successes (runKeeperCycle client keccak256 par x).1.volumes)
        mined := by
  obtain ⟨tries, c₀, c₁, trace, world, left, volumes, _⟩ := (read_result keccak256 read).1.attempts
  obtain ⟨more, mined, grown, goes, listed, all⟩ := trace_mined serves own trace
  rw [left, ← world]
  exact ⟨more, mined, grown, goes, listed, volumes ▸ all⟩

theorem cycle_mined (serves : Serves d outside w₀ stray chain client) (own : par.registry = d.address)
    (keccak256 : BitVec 256 → BitVec 256) (x : ω) :
    ∃ more mined, chain.entries (runKeeperCycle client keccak256 par x).2 = chain.entries x ++ more ∧
      Goes d outside (chain.world x) more (chain.world (runKeeperCycle client keccak256 par x).2) ∧
      mined.Sublist more ∧
      List.Forall₂ (Mined d stray) (successes (runKeeperCycle client keccak256 par x).1.volumes)
        mined := by
  generalize read : enumerate client par (.start par x) = reply
  obtain ⟨answer, c⟩ := reply
  obtain ⟨first, begun, went⟩ : Later d outside chain x c.world := serves.enumerate read
  cases answer with
  | error e =>
    have left : (runKeeperCycle client keccak256 par x).2 = c.world := by
      unfold runKeeperCycle
      rw [read]
      rfl
    rw [left, (unread_result keccak256 read).2.1]
    exact ⟨first, [], begun, went, List.nil_sublist _, .nil⟩
  | ok found =>
    obtain ⟨more, mined, grown, goes, listed, all⟩ := attempts_mined serves own read
    refine ⟨first ++ more, mined, ?_, went.trans serves.moves goes,
      listed.trans (List.sublist_append_right _ _), all⟩
    rw [grown, begun, List.append_assoc]

/-! ## What the report says -/

variable {msg : Msg} {w w' : World T P} {id : Bytes32} {outcome : TriggerOutcome}

/-- The amount of a summary. -/
def VolumeSummary.amount : VolumeSummary → Nat
  | .toppedUp amount => amount
  | _ => 0

theorem Paid.received (documented : d.Documented) {payer : Address} {amount : Nat}
    (paid : Paid d w w' payer amount) (external : External d payer) :
    d.token.balanceOf w'.bzz d.postage = d.token.balanceOf w.bzz d.postage + amount := by
  have balance := (paid.passed.balances documented.token.toStandard external.notRegistry
    documented.apart).2 d.postage
  rw [balance, moved, if_neg documented.apart.symm, if_pos rfl, moved,
    if_neg external.notPostage.symm, if_neg documented.apart.symm]

/-- How a summary tells an outcome. -/
inductive Tells : TriggerOutcome → VolumeSummary → Prop
  | toppedUp (amount : Nat) : Tells .toppedUp (.toppedUp amount)
  | retired (reason : String) : Tells .retired (.retired reason)
  | skipped (reason : String) : Tells .skipped (.topupSkipped reason)
  | noDeficit : Tells .noDeficit .noop

theorem toppedUp_summary (foreign : Foreign d) {amount newBalance : Nat}
    (carries : Carries d w w' [.toppedup id amount newBalance]) :
    summary d stray w w' id = .toppedUp amount := by
  rw [summary_eq foreign carries]
  simp [decodeEvent, DecodedEvents.push, summarizeVolume, DecodedEvents.empty]

/-- The keeper reads off a receipt how the trigger steps ended and what PostageStamp received. -/
theorem triggerOne_tells (documented : d.Documented) (foreign : Foreign d)
    (payers : ExternalPayers d w.store) (ok : triggerOne d msg w id = .ok (outcome, w')) :
    Tells outcome (summary d stray w w' id) ∧ d.token.balanceOf w'.bzz d.postage =
      d.token.balanceOf w.bzz d.postage + VolumeSummary.amount (summary d stray w w' id) := by
  have skipped : ∀ r : SkipReason, Tells .skipped (summary d stray w (w.emit msg (.topupSkipped id r)) id) ∧
      d.token.balanceOf (w.emit msg (.topupSkipped id r)).bzz d.postage = d.token.balanceOf w.bzz d.postage +
        VolumeSummary.amount (summary d stray w (w.emit msg (.topupSkipped id r)) id) := by
    intro r
    have said : summary d stray w (w.emit msg (.topupSkipped id r)) id =
        .topupSkipped (name skipReasons r.value) := by
      rw [summary_eq foreign ((Carries.refl w).emit _)]
      simp [decodeEvent, DecodedEvents.push, summarizeVolume, DecodedEvents.empty]
    rw [said]
    exact ⟨.skipped _, rfl⟩
  cases triggerOne_end ok with
  | idle status => exact skipped _
  | noAuth due inactive => exact skipped _
  | paymentFailed due auth short refused => exact skipped _
  | @retired reason store active edge retired =>
    have stored : Carries d w { w with store } [] := Carries.refl w
    have said : summary d stray w ({ w with store }.emit msg (.volumeRetired id reason)) id =
        .retired (name retireReasons reason.value) := by
      rw [summary_eq foreign (stored.emit _)]
      simp [decodeEvent, DecodedEvents.push, summarizeVolume, DecodedEvents.empty]
    rw [said]
    exact ⟨.retired _, rfl⟩
  | noDeficit due auth full =>
    have said : summary d stray w w id = .noop := by
      rw [summary_eq foreign (Carries.refl w)]
      simp [summarizeVolume, DecodedEvents.empty]
    rw [said]
    exact ⟨.noDeficit, rfl⟩
  | @toppedUp outpayment amount w₁ w₂ w₃ due auth short shifted payable pulled approved topped =>
    have paid := (topUp_paid documented shifted due.depth pulled approved topped).2
    have carries := paid_carries foreign pulled approved topped
    rw [World.emit_bzz, Paid.received documented paid (payers _ auth),
      toppedUp_summary foreign (carries.emit _)]
    exact ⟨.toppedUp _, rfl⟩

/-- A call of a run, with the payers it can reach. -/
theorem run_call {es : List (Entry T P)} (deployed : Deployed d w₀) (goes : Goes d outside w₀ es w)
    {e : Entry T P} (member : e ∈ es) :
    e.result = execute d e.msg e.before e.call ∧ ExternalPayers d e.before.store := by
  obtain ⟨w₁, run, _⟩ := goes
  obtain ⟨pre, post, rfl⟩ := List.append_of_mem member
  obtain ⟨a, b, before, step, _⟩ := run.at_label
  refine ⟨step.executed, ?_⟩
  rw [step.idle.store]
  exact run_payers deployed before

/-- A transaction that succeeded took the trigger steps of its volume. -/
theorem Mined.triggered {v : VolumeResult} {e : Entry T P} (mined : Mined d stray v e)
    (executed : e.result = execute d e.msg e.before e.call) :
    ∃ outcome, triggerOne d e.msg e.before v.volumeId = .ok (outcome, e.after) := by
  obtain ⟨value, after, ok⟩ := Entry.succeeded_iff.mp mined.succeeded
  rw [Entry.after_of_ok ok]
  rw [ok, mined.call] at executed
  obtain ⟨left, triggered, same⟩ := map_success executed.symm
  cases same
  exact trigger_success triggered

/-- A success is reported as what the registry did. -/
structure Truthful (d : Deployment T P) (stray : CalleeLog → Option KeeperEvent) (v : VolumeResult)
    (e : Entry T P) : Prop extends Mined d stray v e where
  faithful : (e.before.store.volumes v.volumeId).status = .active →
    ∃ outcome, triggerOne d e.msg e.before v.volumeId = .ok (outcome, e.after) ∧
      Faithful d e.before e.after v.volumeId outcome (Receipts.summary d stray e.before e.after v.volumeId)
  received : (v.summary.map VolumeSummary.amount).getD 0 = e.received d

theorem Mined.truthful {v : VolumeResult} {e : Entry T P} (mined : Mined d stray v e)
    (documented : d.Documented) (foreign : Foreign d)
    (executed : e.result = execute d e.msg e.before e.call) (payers : ExternalPayers d e.before.store) :
    Truthful d stray v e := by
  obtain ⟨outcome, ok⟩ := mined.triggered executed
  refine ⟨mined, fun active => ⟨outcome, ok, ?_⟩, ?_⟩
  · exact (triggerOne_faithful documented foreign payers ok).mpr active
  · have received : d.token.balanceOf e.after.bzz d.postage = _ + VolumeSummary.amount
        (Receipts.summary d stray e.before e.after v.volumeId) :=
      (triggerOne_tells documented foreign payers ok).2
    rw [mined.summary, Entry.received, received]
    simp

/-- Only successes are entered as top-ups. -/
theorem toppedUp_sum (volumes : List VolumeResult) :
    ((volumes.filterMap toppedUpEntry).map ToppedUp.amount).sum =
      ((successes volumes).map fun v => (v.summary.map VolumeSummary.amount).getD 0).sum := by
  induction volumes with
  | nil => rfl
  | cons v volumes ih =>
    unfold successes at ih ⊢
    by_cases success : v.status = .success
    · rw [List.filter_cons_of_pos (by simpa using success), List.map_cons, List.sum_cons, ← ih]
      cases said : v.summary with
      | none => simp [toppedUpEntry, success, said]
      | some summary =>
        cases summary with
        | _ => simp [toppedUpEntry, success, said, VolumeSummary.amount]
    · have silent : toppedUpEntry v = none := by
        unfold toppedUpEntry
        split
        · rename_i same _
          exact absurd same success
        · rfl
      rw [List.filter_cons_of_neg (by simpa using success), List.filterMap_cons_none silent, ih]

theorem truthful_sum {volumes : List VolumeResult} {calls : List (Entry T P)}
    (all : List.Forall₂ (Truthful d stray) volumes calls) :
    (volumes.map fun v => (v.summary.map VolumeSummary.amount).getD 0).sum =
      (calls.map (Entry.received d)).sum := by
  induction all with
  | nil => rfl
  | cons first rest ih => rw [List.map_cons, List.map_cons, List.sum_cons, List.sum_cons, first.received, ih]

/-- Whatever else happens on the chain, the successes a cycle reports are calls the chain
gained while it ran, in the order of the report and each told as it was. The amounts it
reports add up to what PostageStamp received in these calls. -/
theorem cycle_reports_chain (documented : d.Documented) (foreign : Foreign d) (deployed : Deployed d w₀)
    (serves : Serves d outside w₀ stray chain client) (own : par.registry = d.address)
    (keccak256 : BitVec 256 → BitVec 256) (x : ω) :
    ∃ more mined, chain.entries (runKeeperCycle client keccak256 par x).2 = chain.entries x ++ more ∧
      Goes d outside (chain.world x) more (chain.world (runKeeperCycle client keccak256 par x).2) ∧
      mined.Sublist more ∧
      List.Forall₂ (Truthful d stray) (successes (runKeeperCycle client keccak256 par x).1.volumes)
        mined ∧
      ((runKeeperCycle client keccak256 par x).1.toppedUp.map ToppedUp.amount).sum =
        (mined.map (Entry.received d)).sum := by
  obtain ⟨more, mined, grown, goes, listed, all⟩ := cycle_mined serves own keccak256 x
  have calls : ∀ e ∈ mined, e.result = execute d e.msg e.before e.call ∧
      ExternalPayers d e.before.store := by
    intro e member
    apply run_call deployed (serves.run (runKeeperCycle client keccak256 par x).2)
    rw [grown]
    exact List.mem_append_right _ (listed.subset member)
  have truthful : List.Forall₂ (Truthful d stray)
      (successes (runKeeperCycle client keccak256 par x).1.volumes) mined := by
    clear grown goes listed
    generalize successes (runKeeperCycle client keccak256 par x).1.volumes = volumes at all ⊢
    induction all with
    | nil => exact .nil
    | @cons v e _ _ first rest ih =>
      obtain ⟨executed, payers⟩ := calls e (List.mem_cons_self ..)
      exact .cons (first.truthful documented foreign executed payers)
        (ih fun e' member => calls e' (List.mem_cons_of_mem _ member))
  refine ⟨more, mined, grown, goes, listed, truthful, ?_⟩
  rw [(runKeeperCycle_listed client keccak256 par x).toppedUp, toppedUp_sum, truthful_sum truthful]

/-! ## A node of the sample -/

open Reference (Ledger Office)
open Sample (deployment genesis enrolled first)

variable {between : World Ledger Office → World Ledger Office → Prop}

/-- A chain the sample may be at. -/
structure Posted (between : World Ledger Office → World Ledger Office → Prop) where
  entries : List (Entry Ledger Office)
  world : World Ledger Office
  run : Goes deployment between genesis entries world

theorem wallet_external : External deployment 0xD := by decide

theorem posted_run (still : ∀ w, between w w) {es : List (Entry Ledger Office)}
    {w : World Ledger Office} (goes : Goes deployment between genesis es w)
    {e : Entry Ledger Office} {tx : Bytes32} {call : Call}
    (same : e = ⟨w, ⟨0xD, tx⟩, call, execute deployment ⟨0xD, tx⟩ w call⟩) :
    Goes deployment between genesis (es ++ [e]) e.after := by
  obtain ⟨w₁, run, idle, moved⟩ := goes
  subst same
  exact ⟨_, .snoc run ⟨idle, moved, wallet_external, rfl, rfl⟩, .refl _, still _⟩

/-- The keeper's wallet calls the registry. -/
def Posted.call (still : ∀ w, between w w) (p : Posted between) (tx : Bytes32) (call : Call) :
    Posted between :=
  let e : Entry Ledger Office := ⟨p.world, ⟨0xD, tx⟩, call, execute deployment ⟨0xD, tx⟩ p.world call⟩
  ⟨p.entries ++ [e], e.after, posted_run still p.run rfl⟩

/-- The transactions of the keeper, one for each nonce. -/
def sentTx (nonce : Nat) : Transaction := ⟨deployment.address, first, 3000000, nonce, 0, 0⟩

def sentHash (nonce : Nat) : Bytes32 := BitVec.ofNat 256 (77 + nonce)

def postedChain (between : World Ledger Office → World Ledger Office → Prop) :
    Chain Ledger Office (Posted between) :=
  ⟨Posted.entries, Posted.world, fun hash => some (sentTx (hash.toNat - 77))⟩

/-- A node that answers reads from one block and mines at once. -/
def postNode (still : ∀ w, between w w) : Client (Posted between) where
  now _ := 0
  getBlockNumber p := (.ok 100, p)
  getActiveVolumeCount registry block p :=
    (((Enumeration.reader enrolled.store).getActiveVolumeCount registry block ()).1, p)
  getActiveVolumes registry block pages p :=
    (((Enumeration.reader enrolled.store).getActiveVolumes registry block pages ()).1, p)
  getVolumes registry block ids p :=
    (((Enumeration.reader enrolled.store).getVolumes registry block ids ()).1, p)
  readNonceAndFees p := (.ok ⟨p.entries.length, none, 0⟩, p)
  simulateContract _ _ p := (.ok (), p)
  estimateContractGas _ _ p := (.ok 0, p)
  writeContract tx p :=
    let hash := sentHash tx.nonce
    if tx = sentTx tx.nonce ∧ tx.nonce < 2 ^ 64 ∧ ∀ e ∈ p.entries, e.msg.tx ≠ hash then
      (.ok hash, p.call still hash (.trigger first))
    else (.error (.error "nonce too low"), p)
  waitForTransactionReceipt hash _ _ p :=
    match p.entries.find? fun e => e.msg.tx = hash ∧ e.call = .trigger first ∧ e.Succeeded with
    | some e =>
      (.ok ⟨.success, e.block.number, 0, receiptLogs deployment (fun _ => none) e.before e.after⟩, p)
    | none => (.error (.error "timed out"), p)

theorem postNode_serves (still : ∀ w, between w w)
    (moves : ∀ a b c, between a b → between b c → between a c) :
    Serves deployment between genesis (fun _ => none) (postedChain between) (postNode still) where
  still := still
  moves := moves
  run p := p.run
  getBlockNumber p := .refl still p
  getActiveVolumeCount _ _ p := .refl still p
  getActiveVolumes _ _ _ p := .refl still p
  getVolumes _ _ _ p := .refl still p
  readNonceAndFees p := .refl still p
  simulateContract _ _ p := .refl still p
  estimateContractGas _ _ p := .refl still p
  writeContract tx p := by
    dsimp only [postNode]
    split
    · exact ⟨_, rfl, _, .single ⟨.refl _, still _, wallet_external, rfl, rfl⟩, .refl _, still _⟩
    · exact .refl still p
  waitForTransactionReceipt hash confirmations timeout p := by
    dsimp only [postNode]
    split
    · exact .refl still p
    · exact .refl still p
  accepted := by
    intro tx p hash p' written
    dsimp only [postNode] at written
    split at written
    · rename_i new
      obtain ⟨same, small, fresh⟩ := new
      cases written
      refine ⟨?_, fresh⟩
      have nonce : (sentHash tx.nonce).toNat - 77 = tx.nonce := by
        rw [sentHash, BitVec.toNat_ofNat, Nat.mod_eq_of_lt (by omega), Nat.add_sub_cancel_left]
      dsimp only [postedChain]
      rw [nonce, ← same]
    · cases written
  mined := by
    intro hash confirmations timeout p receipt p' waited _ tx named _
    dsimp only [postNode] at waited
    split at waited
    · rename_i e found
      cases waited
      have matched : e.msg.tx = hash ∧ e.call = .trigger first ∧ e.Succeeded := by
        simpa using List.find?_some found
      obtain rfl : sentTx (hash.toNat - 77) = tx := Option.some.inj named
      exact ⟨e, List.mem_of_find?_eq_some found, matched.1, matched.2.1, matched.2.2, rfl, rfl⟩
    · cases waited

def posted (still : ∀ w, between w w) : Posted between :=
  ⟨(play deployment genesis Sample.enrolling).1, enrolled, enrolled, Sample.enrolled_run still, .refl _,
    still _⟩

def sampleParameters : Parameters := { registry := deployment.address, mode := .all }

/-- The cycle of the sample. -/
def sampleCycle (still : ∀ w, between w w) : CycleResult × Posted between :=
  runKeeperCycle (postNode still) (fun word => word) sampleParameters (posted still)

theorem cycle_reports_chain_sample :
    ∃ more mined, (sampleCycle anything_refl).2.entries = (posted anything_refl).entries ++ more ∧
      Goes deployment anything (posted anything_refl).world more (sampleCycle anything_refl).2.world ∧
      mined.Sublist more ∧
      List.Forall₂ (Truthful deployment fun _ => none)
        (successes (sampleCycle anything_refl).1.volumes) mined ∧
      ((sampleCycle anything_refl).1.toppedUp.map ToppedUp.amount).sum =
        (mined.map (Entry.received deployment)).sum := by
  have own : sampleParameters.registry = deployment.address := rfl
  exact cycle_reports_chain Sample.documented reference_foreign Sample.deployed
    (postNode_serves anything_refl fun _ _ _ _ _ => trivial) own (fun word => word) (posted anything_refl)

example : (sampleCycle anything_refl).1.toppedUp.map ToppedUp.volumeId = [first] := by decide

end SwarmVolumes.Guarantees.KeeperOnChain
