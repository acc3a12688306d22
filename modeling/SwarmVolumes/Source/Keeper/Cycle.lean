import SwarmVolumes.Source.Keeper.Collect

/-!
# The keeper cycle

`trigger.ts` and `runKeeperCycle.ts`. The mutable variables of the cycle's
closure, `sending` and `result`, are a state next to the client's world; a throw
leaves what was written before it.
-/
namespace SwarmVolumes.Source.Keeper

variable {ω : Type}

inductive Mode where
  | all
  | selected (volumeIds : List Bytes32)
  deriving DecidableEq, Repr

/-- `RunKeeperCycleParameters` with its defaults. `gasMultiplier` counts hundredths,
as `scaleGas` rounds it. -/
structure Parameters where
  registry : Address
  mode : Mode := .all
  pageSize : Nat := 100
  maxVolumesPerCycle : Nat := 50
  gasMultiplier : Nat := 120
  gasFloor : Nat := 3000000
  confirmations : Nat := 1
  receiptTimeout : Nat := 60000
  cycleTimeout : Int := 120000
  dryRun : Bool := false
  deriving DecidableEq, Repr

inductive VolumeStatus where
  | success | reverted | simulated | failed
  deriving DecidableEq, Repr

/-- `outcome`, `amount` and `reason` are one field here: the summary of a
transaction that succeeded. -/
structure VolumeResult where
  volumeId : Bytes32
  status : VolumeStatus
  summary : Option VolumeSummary := none
  hash : Option Bytes32 := none
  blockNumber : Option Nat := none
  gasUsed : Option Nat := none
  error : Option String := none
  deriving DecidableEq, Repr

structure KeeperIssue where
  message : String
  volumeId : Option Bytes32 := none
  hash : Option Bytes32 := none
  deriving DecidableEq, Repr

/-- `RunKeeperCycleReturnType`. -/
structure CycleResult where
  ok : Bool := true
  mode : Mode
  blockNumber : Option (BitVec 256) := none
  volumeCount : Nat := 0
  skipped : Option String := none
  volumes : List VolumeResult := []
  toppedUp : List ToppedUp := []
  retired : List VolumeOutcome := []
  topupSkipped : List VolumeOutcome := []
  noop : List Bytes32 := []
  failed : List Bytes32 := []
  notActive : List Bytes32 := []
  warnings : List KeeperIssue := []
  error : Option String := none
  durationMs : Int := 0
  deriving DecidableEq, Repr

structure Sending where
  nonce : Nat
  maxFeePerGas : Nat
  maxPriorityFeePerGas : Nat
  deriving DecidableEq, Repr

/-- The world, and the variables of the cycle. -/
structure Cycle (ω : Type) where
  world : ω
  sending : Option Sending
  result : CycleResult

namespace Cycle

def start (par : Parameters) (w : ω) : Cycle ω := ⟨w, none, { mode := par.mode }⟩

/-- One request. -/
def ask {α : Type} (c : Cycle ω) (request : Request ω α) : Except Thrown α × Cycle ω :=
  let reply := request c.world
  (reply.1, { c with world := reply.2 })

def update (c : Cycle ω) (f : CycleResult → CycleResult) : Cycle ω := { c with result := f c.result }

def warn (c : Cycle ω) (issue : KeeperIssue) : Cycle ω :=
  c.update fun r => { r with warnings := r.warnings ++ [issue] }

end Cycle

/-! ## Enumeration -/

def rotateVolumes {α : Type} (keccak256 : BitVec 256 → BitVec 256) (ids : List α)
    (blockNumber : BitVec 256) : List α :=
  if ids.length < 2 then ids
  else
    let start := (keccak256 blockNumber).toNat % ids.length
    ids.drop start ++ ids.take start

def notActiveIssue (volumeId : Bytes32) : KeeperIssue :=
  { message := "requested volume is not Active", volumeId := some volumeId }

/-- The body of `views.forEach`: the IDs to trigger so far, and the cycle. -/
def sortView (acc : List Bytes32 × Cycle ω) (view : VolumeView × Bytes32) : List Bytes32 × Cycle ω :=
  if view.1.status = .active then (acc.1 ++ [view.1.volumeId], acc.2)
  else
    let c := acc.2.update fun r => { r with notActive := r.notActive ++ [view.2] }
    (acc.1, c.warn (notActiveIssue view.2))

def collectIds (client : Client ω) (par : Parameters) (blockNumber : BitVec 256) (c : Cycle ω) :
    Except Thrown (List Bytes32) × Cycle ω :=
  match par.mode with
  | .all =>
    match c.ask (collectActiveVolumes client par.registry par.pageSize blockNumber) with
    | (.error e, c) => (.error e, c)
    | (.ok views, c) => (.ok (views.map VolumeView.volumeId), c)
  | .selected volumeIds =>
    match c.ask (client.getVolumes par.registry blockNumber volumeIds) with
    | (.error e, c) => (.error e, c)
    | (.ok views, c) =>
      let sorted := (views.val.zip volumeIds).foldl sortView ([], c)
      (.ok sorted.1, sorted.2)

/-- The block, and the IDs read at it. -/
def enumerate (client : Client ω) (par : Parameters) (c : Cycle ω) :
    Except Thrown (BitVec 256 × List Bytes32) × Cycle ω :=
  match c.ask client.getBlockNumber with
  | (.error e, c) => (.error e, c)
  | (.ok blockNumber, c) =>
    let c := c.update fun r => { r with blockNumber := some blockNumber }
    match collectIds client par blockNumber c with
    | (.error e, c) => (.error e, c)
    | (.ok volumeIds, c) => (.ok (blockNumber, volumeIds), c)

/-! ## One volume -/

def scaleGas (gas multiplier : Nat) : Nat := gas * multiplier / 100

/-- The fee cap carries twice the current base fee. -/
def readSending (client : Client ω) (c : Cycle ω) : Except Thrown Sending × Cycle ω :=
  match c.ask client.readNonceAndFees with
  | (.error e, c) => (.error e, c)
  | (.ok read, c) =>
    (.ok ⟨read.nonce, read.baseFeePerGas.getD 0 * 2 + read.maxPriorityFeePerGas,
      read.maxPriorityFeePerGas⟩, c)

/-- `sending ??= await readSending()`. -/
def useSending (client : Client ω) (c : Cycle ω) : Except Thrown Sending × Cycle ω :=
  match c.sending with
  | some sending => (.ok sending, c)
  | none =>
    match readSending client c with
    | (.error e, c) => (.error e, c)
    | (.ok sending, c) => (.ok sending, { c with sending := some sending })

/-- `trigger`: the estimate, scaled and floored, then the send. -/
def triggerVolume (client : Client ω) (par : Parameters) (volumeId : Bytes32) (sending : Sending)
    (c : Cycle ω) : Except Thrown Bytes32 × Cycle ω :=
  match c.ask (client.estimateContractGas par.registry volumeId) with
  | (.error e, c) => (.error e, c)
  | (.ok estimate, c) =>
    let gas := scaleGas estimate par.gasMultiplier
    let gas := if gas < par.gasFloor then par.gasFloor else gas
    c.ask (client.writeContract
      { registry := par.registry, volumeId, gas, nonce := sending.nonce,
        maxFeePerGas := sending.maxFeePerGas,
        maxPriorityFeePerGas := sending.maxPriorityFeePerGas })

/-- The `switch` over the outcome of a transaction that succeeded. -/
def record (c : Cycle ω) (volumeId hash : Bytes32) : VolumeSummary → Cycle ω
  | .toppedUp amount => c.update fun r => { r with toppedUp := r.toppedUp ++ [⟨volumeId, amount⟩] }
  | .retired reason =>
    (c.update fun r => { r with retired := r.retired ++ [⟨volumeId, reason⟩] }).warn
      { message := s!"retired: {reason}", volumeId := some volumeId, hash := some hash }
  | .topupSkipped reason =>
    (c.update fun r => { r with topupSkipped := r.topupSkipped ++ [⟨volumeId, reason⟩] }).warn
      { message := s!"not funded: {reason}", volumeId := some volumeId, hash := some hash }
  | .noop => c.update fun r => { r with noop := r.noop ++ [volumeId] }

/-- The receipt of a transaction that was sent. -/
def settle (client : Client ω) (par : Parameters) (volumeId hash : Bytes32) (c : Cycle ω) :
    Except Thrown VolumeResult × Cycle ω :=
  match c.ask (client.waitForTransactionReceipt hash par.confirmations par.receiptTimeout) with
  | (.error e, c) => (.error e, c)
  | (.ok receipt, c) =>
    let mined : VolumeResult :=
      { volumeId, status := .reverted, hash := some hash, blockNumber := some receipt.blockNumber,
        gasUsed := some receipt.gasUsed }
    if receipt.status ≠ .success then (.ok mined, c)
    else
      let summary := summarizeVolume (decodeCycleEvents receipt.logs par.registry) volumeId
      (.ok { mined with status := .success, summary := some summary },
        record c volumeId hash summary)

/-- The `catch` of `sendOne`: nonce and fees are dropped; a hash is reported. -/
def failOne (volumeId : Bytes32) (hash : Option Bytes32) (e : Thrown) (c : Cycle ω) :
    VolumeResult × Cycle ω :=
  ({ volumeId, status := .failed, hash, error := some (message e) }, { c with sending := none })

def sendOne (client : Client ω) (par : Parameters) (volumeId : Bytes32) (c : Cycle ω) :
    VolumeResult × Cycle ω :=
  if par.dryRun then
    match c.ask (client.simulateContract par.registry volumeId) with
    | (.error e, c) => failOne volumeId none e c
    | (.ok _, c) => ({ volumeId, status := .simulated }, c)
  else
    match useSending client c with
    | (.error e, c) => failOne volumeId none e c
    | (.ok sending, c) =>
      match triggerVolume client par volumeId sending c with
      | (.error e, c) => failOne volumeId none e c
      | (.ok hash, c) =>
        let c := { c with sending := some { sending with nonce := sending.nonce + 1 } }
        match settle client par volumeId hash c with
        | (.error e, c) => failOne volumeId (some hash) e c
        | (.ok volume, c) => (volume, c)

/-! ## The cycle -/

def maxReached (maxVolumesPerCycle deferred : Nat) : KeeperIssue :=
  { message := s!"maxVolumesPerCycle ({maxVolumesPerCycle}) reached: {deferred} volume(s) deferred to the next cycle" }

def deadlineReached (attempted deferred : Nat) : KeeperIssue :=
  { message := s!"cycle deadline reached after {attempted} volume(s); {deferred} deferred to the next cycle" }

/-- The result of one attempt enters the list. -/
def push (c : Cycle ω) (volume : VolumeResult) : Cycle ω :=
  let c := c.update fun r => { r with volumes := r.volumes ++ [volume] }
  if volume.status = .failed ∨ volume.status = .reverted then
    c.update fun r => { r with ok := false, failed := r.failed ++ [volume.volumeId] }
  else c

/-- The loop from its `i`th volume on. -/
def attempt (client : Client ω) (par : Parameters) (deadline : Int) :
    Nat → List Bytes32 → Cycle ω → Cycle ω
  | _, [], c => c
  | i, volumeId :: volumeIds, c =>
    if 0 < i ∧ deadline < client.now c.world then
      c.warn (deadlineReached i (volumeId :: volumeIds).length)
    else
      let (volume, c) := sendOne client par volumeId c
      attempt client par deadline (i + 1) volumeIds (push c volume)

/-- What follows a successful enumeration. -/
def triggerVolumes (client : Client ω) (keccak256 : BitVec 256 → BitVec 256) (par : Parameters)
    (deadline : Int) (blockNumber : BitVec 256) (volumeIds : List Bytes32) (c : Cycle ω) : Cycle ω :=
  let c := c.update fun r => { r with volumeCount := volumeIds.length }
  if volumeIds.length = 0 then c.update fun r => { r with skipped := some "no active volumes" }
  else
    let attempting := (rotateVolumes keccak256 volumeIds blockNumber).take par.maxVolumesPerCycle
    let c :=
      if attempting.length < volumeIds.length then
        c.warn (maxReached par.maxVolumesPerCycle (volumeIds.length - attempting.length))
      else c
    attempt client par deadline 0 attempting c

/-- Nothing after the enumeration throws. -/
def runKeeperCycle (client : Client ω) (keccak256 : BitVec 256 → BitVec 256) (par : Parameters)
    (w : ω) : CycleResult × ω :=
  let startedAt := client.now w
  let deadline := startedAt + par.cycleTimeout
  let c :=
    match enumerate client par (.start par w) with
    | (.error e, c) => c.update fun r => { r with ok := false, error := some (message e) }
    | (.ok (blockNumber, volumeIds), c) =>
      triggerVolumes client keccak256 par deadline blockNumber volumeIds c
  ({ c.result with durationMs := client.now c.world - startedAt }, c.world)

end SwarmVolumes.Source.Keeper
