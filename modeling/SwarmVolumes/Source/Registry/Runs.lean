import SwarmVolumes.Source.Registry.EntryPoints
import SwarmVolumes.Library.Trace

/-!
# Runs of a registry

A run starts at a deployment and takes one call after another, by any caller
and with any outcome. Between calls the world moves on: the clock, balances,
allowances and Postage change, the registry's storage does not. How far it may
move is the parameter `outside` of a run, so that every result names what it
needs of the environment.
-/
namespace SwarmVolumes.Source
open Library

variable {T P : Type}

/-- One call of a run. -/
structure Entry (T P : Type) where
  before : World T P
  msg : Msg
  call : Call
  result : Except Revert (Option Bytes32 × World T P)

def Entry.after (e : Entry T P) : World T P :=
  match e.result with
  | .ok (_, w) => w
  | .error _ => e.before

/-- The volume ID a successful creating call returned. -/
def Entry.returned (e : Entry T P) : Option Bytes32 :=
  match e.result with
  | .ok (value, _) => value
  | .error _ => none

/-- The call was made and did not revert. -/
def Entry.Succeeded (e : Entry T P) : Prop := e.result.isOk = true

instance (e : Entry T P) : Decidable e.Succeeded := inferInstanceAs (Decidable (_ = true))

/-- Who can send a call: the registry and PostageStamp never call the registry,
and no one holds the key of the zero address. -/
structure External (d : Deployment T P) (sender : Address) : Prop where
  notZero : sender ≠ 0
  notRegistry : sender ≠ d.address
  notPostage : sender ≠ d.postage

instance (d : Deployment T P) (sender : Address) : Decidable (External d sender) :=
  decidable_of_iff (sender ≠ 0 ∧ sender ≠ d.address ∧ sender ≠ d.postage)
    ⟨fun ⟨a, b, c⟩ => ⟨a, b, c⟩, fun ⟨a, b, c⟩ => ⟨a, b, c⟩⟩

/-- What the registry keeps while others act. -/
structure Idle (w w' : World T P) : Prop where
  store : w'.store = w.store
  logs : w'.logs = w.logs

theorem Idle.refl (w : World T P) : Idle w w := ⟨rfl, rfl⟩

/-- Others act, then someone calls the registry. -/
structure CallStep (d : Deployment T P) (outside : World T P → World T P → Prop)
    (w : World T P) (e : Entry T P) (w' : World T P) : Prop where
  idle : Idle w e.before
  moved : outside w e.before
  external : External d e.msg.sender
  executed : e.result = execute d e.msg e.before e.call
  left : w' = e.after

/-- A fresh deployment: the constructor succeeded and no call was made yet. -/
structure Deployed (d : Deployment T P) (w : World T P) : Prop where
  constructed : construct d w.postage = .ok w.store
  unlogged : w.logs = []

abbrev Run (d : Deployment T P) (outside : World T P → World T P → Prop) (w₀ : World T P) :
    List (Entry T P) → World T P → Prop :=
  Trace (CallStep d outside) w₀

/-- A world the next call can find: after a run and whatever others did since. -/
def Reachable (d : Deployment T P) (outside : World T P → World T P → Prop)
    (w₀ w : World T P) : Prop :=
  ∃ es w₁, Run d outside w₀ es w₁ ∧ Idle w₁ w ∧ outside w₁ w

/-- No restriction on what others do. -/
def anything (_ _ : World T P) : Prop := True

/-- The run in which the calls are made one after another and nothing else
happens. -/
def play (d : Deployment T P) (w : World T P) : List (Msg × Call) → List (Entry T P) × World T P
  | [] => ([], w)
  | (msg, call) :: calls =>
    let e : Entry T P := ⟨w, msg, call, execute d msg w call⟩
    let rest := play d e.after calls
    (e :: rest.1, rest.2)

theorem anything_refl (w : World T P) : anything w w := trivial

/-- One run of the trigger steps inside a call, with the worlds around it. -/
structure TriggerStep (T P : Type) where
  before : World T P
  volumeId : Bytes32
  outcome : TriggerOutcome
  after : World T P

/-- A trigger step as a transition. -/
structure Ran (d : Deployment T P) (x : World T P) (step : TriggerStep T P) (y : World T P) :
    Prop where
  before : step.before = x
  after : step.after = y
  ran : ∃ msg, triggerOne d msg x step.volumeId = .ok (step.outcome, y)

/-- The trigger steps over a list of IDs, up to the first that reverts. -/
def triggerSteps (d : Deployment T P) (msg : Msg) (w : World T P) :
    List Bytes32 → List (TriggerStep T P)
  | [] => []
  | volumeId :: volumeIds =>
    match triggerOne d msg w volumeId with
    | .ok (outcome, after) =>
      ⟨w, volumeId, outcome, after⟩ :: triggerSteps d msg after volumeIds
    | .error _ => []

/-- The trigger steps of a call; those of an import follow its registration. -/
def Call.steps (d : Deployment T P) (msg : Msg) (w : World T P) : Call → List (TriggerStep T P)
  | .trigger volumeId => triggerSteps d msg w [volumeId]
  | .triggerMany volumeIds => triggerSteps d msg w volumeIds
  | .importVolume batchId ttlExpiry =>
    match registerBatch d msg w batchId ttlExpiry with
    | .ok (volumeId, registered) => triggerSteps d msg registered [volumeId]
    | .error _ => []
  | _ => []

/-- The worlds the trigger steps over a list of IDs start from, one by one. -/
def triggerWorlds (d : Deployment T P) (msg : Msg) (w : World T P) :
    List Bytes32 → List (World T P)
  | [] => []
  | volumeId :: volumeIds =>
    w :: match triggerOne d msg w volumeId with
      | .ok (_, after) => triggerWorlds d msg after volumeIds
      | .error _ => []

/-- Every world in which a call may reach `_retire`. -/
def Call.worlds (d : Deployment T P) (msg : Msg) (w : World T P) : Call → List (World T P)
  | .trigger volumeId => triggerWorlds d msg w [volumeId]
  | .triggerMany volumeIds => triggerWorlds d msg w volumeIds
  | .importVolume batchId ttlExpiry =>
    match registerBatch d msg w batchId ttlExpiry with
    | .ok (volumeId, registered) => triggerWorlds d msg registered [volumeId]
    | .error _ => []
  | .deleteVolume _ | .reap _ => [w]
  | _ => []

/-- The calls that consume a nonce. -/
def Call.creating : Call → Bool
  | .createVolume .. | .registerVolume .. | .importVolume .. => true
  | _ => false

def Record.event? (r : Record) : Option Event :=
  match r.log with
  | .registry event => some event
  | .callee _ => none

/-- The registry's own events, in the order it emitted them. -/
def World.events (w : World T P) : List Event := w.logs.filterMap Record.event?

/-- `getActiveVolumeCount`. -/
def getActiveVolumeCount (s : Storage) : Nat := s.activeVolumeIds.length

section
variable {d : Deployment T P} {outside : World T P → World T P → Prop} {w₀ w w' : World T P}

theorem Entry.after_of_ok {e : Entry T P} {value : Option Bytes32} (ok : e.result = .ok (value, w)) :
    e.after = w := by
  rw [Entry.after, ok]

theorem Entry.after_of_error {e : Entry T P} {r : Revert} (failed : e.result = .error r) :
    e.after = e.before := by
  rw [Entry.after, failed]

theorem Entry.succeeded_iff {e : Entry T P} : e.Succeeded ↔ ∃ value w, e.result = .ok (value, w) := by
  unfold Entry.Succeeded
  cases same : e.result with
  | error r => simp [Except.isOk, Except.toBool]
  | ok pair => simpa [Except.isOk, Except.toBool] using ⟨pair.1, pair.2, rfl⟩

/-- What the constructor checked: the wiring, the grace period against
PostageStamp's minimum, and the permit flag against the token. -/
theorem construct_success {postage : P} {s : Storage} (ok : construct d postage = .ok s) :
    d.postage ≠ 0 ∧ d.stamp.minimumValidityBlocks postage ≤ d.graceBlocks ∧
    (d.bzzPermitExpiry = true → ∃ expirations, d.token.expirations = some expirations) ∧
    s = .empty := by
  simp only [construct] at ok
  split at ok
  · cases ok
  · rename_i wired
    split at ok
    · cases ok
    · rename_i long
      split at ok
      · cases ok
      · rename_i getter
        refine ⟨fun zero => wired (Or.inl zero), UInt64.not_lt.mp long, fun flag => ?_,
          (Except.ok.inj ok).symm⟩
        rw [flag, Bool.true_and, Bool.not_eq_true, Option.isNone_eq_false_iff] at getter
        exact Option.isSome_iff_exists.mp getter

/-- Deployment leaves every slot zero. -/
theorem Deployed.store (deployed : Deployed d w) : w.store = .empty :=
  (construct_success deployed.constructed).2.2.2

/-- The invariant rule of the registry: it holds at deployment, survives what
others do, and survives every successful call. -/
theorem Run.invariant {es : List (Entry T P)} (I : World T P → Prop) (start : I w₀)
    (idle : ∀ w w', Idle w w' → outside w w' → I w → I w')
    (called : ∀ msg call w value w', External d msg.sender →
      execute d msg w call = .ok (value, w') → I w → I w')
    (run : Run d outside w₀ es w) : I w := by
  refine Trace.invariant I start ?_ run
  intro s e s' step held
  have before := idle _ _ step.idle step.moved held
  rw [step.left]
  cases same : e.result with
  | error r => rwa [Entry.after_of_error same]
  | ok pair =>
    rw [Entry.after_of_ok same]
    exact called _ _ _ _ _ step.external (step.executed.symm.trans same) before

theorem Reachable.invariant (I : World T P → Prop) (start : I w₀)
    (idle : ∀ w w', Idle w w' → outside w w' → I w → I w')
    (called : ∀ msg call w value w', External d msg.sender →
      execute d msg w call = .ok (value, w') → I w → I w')
    (reachable : Reachable d outside w₀ w) : I w := by
  obtain ⟨es, w₁, run, same, moved⟩ := reachable
  exact idle _ _ same moved (Run.invariant I start idle called run)

theorem play_run (still : ∀ w, outside w w) {calls : List (Msg × Call)}
    (external : ∀ c ∈ calls, External d c.1.sender) :
    Run d outside w (play d w calls).1 (play d w calls).2 := by
  induction calls generalizing w with
  | nil => exact .nil
  | cons c calls ih =>
    have step : CallStep d outside w ⟨w, c.1, c.2, execute d c.1 w c.2⟩ _ :=
      ⟨.refl w, still w, external c (by simp), rfl, rfl⟩
    exact .cons step (ih fun c' member => external c' (by simp [member]))

end
end SwarmVolumes.Source
