import SwarmVolumes.Source.Keeper.Cycle
import Mathlib.Data.List.Induction

/-!
# Nonce discipline

A keeper whose wallet nobody else spends from, against a node that may fail any
request and may have accepted a transaction whose send failed. Every transaction
a cycle hands to the node carries the number of transactions accepted before it,
so the accepted ones use consecutive nonces, each once.
-/
namespace SwarmVolumes.Guarantees.NonceDiscipline
open Source Source.Keeper

variable {ν α : Type}

/-- A transaction handed to the node, and whether the node took it. -/
structure Handed where
  nonce : Nat
  accepted : Bool
  deriving DecidableEq, Repr

/-- The node, the number of transactions it has accepted from the wallet, and what
the cycle handed to it. -/
structure Wallet (ν : Type) where
  node : ν
  accepted : Nat
  handed : List Handed

/-- A request that sends nothing. -/
def plain (request : Request ν α) : Request (Wallet ν) α := fun w =>
  let reply := request w.node
  (reply.1, { w with node := reply.2 })

/-- `getTransactionCount` at `pending` counts the accepted transactions. -/
def countingNonce (request : Request ν NonceAndFees) : Request (Wallet ν) NonceAndFees := fun w =>
  match plain request w with
  | (.error e, w) => (.error e, w)
  | (.ok read, w) => (.ok { read with nonce := w.accepted }, w)

/-- A send that returns a hash was accepted; for one that throws the node decides. -/
def sending (accepts : Transaction → ν → Bool) (write : Transaction → Request ν Bytes32)
    (tx : Transaction) : Request (Wallet ν) Bytes32 := fun w =>
  let reply := write tx w.node
  let accepted := reply.1.isOk || accepts tx w.node
  (reply.1,
    { node := reply.2
      accepted := if accepted then w.accepted + 1 else w.accepted
      handed := w.handed ++ [⟨tx.nonce, accepted⟩] })

/-- A client with its wallet at a node that answers every request as it likes. -/
def walletClient (node : Client ν) (accepts : Transaction → ν → Bool) : Client (Wallet ν) where
  now w := node.now w.node
  getBlockNumber := plain node.getBlockNumber
  getActiveVolumeCount registry blockNumber := plain (node.getActiveVolumeCount registry blockNumber)
  getActiveVolumes registry blockNumber pages :=
    plain (node.getActiveVolumes registry blockNumber pages)
  getVolumes registry blockNumber volumeIds :=
    plain (node.getVolumes registry blockNumber volumeIds)
  readNonceAndFees := countingNonce node.readNonceAndFees
  simulateContract registry volumeId := plain (node.simulateContract registry volumeId)
  estimateContractGas registry volumeId := plain (node.estimateContractGas registry volumeId)
  writeContract := sending accepts node.writeContract
  waitForTransactionReceipt hash confirmations timeout :=
    plain (node.waitForTransactionReceipt hash confirmations timeout)

/-- How many of them the node took. -/
def taken (handed : List Handed) : Nat := (handed.filter Handed.accepted).length

/-- Each carries the number of transactions accepted before it, `start` of them
before the first. -/
def Disciplined (start : Nat) (handed : List Handed) : Prop :=
  ∀ before h after, handed = before ++ h :: after → h.nonce = start + taken before

theorem taken_append (first second : List Handed) :
    taken (first ++ second) = taken first + taken second := by
  simp [taken]

theorem Disciplined.snoc {start : Nat} {handed : List Handed} {h : Handed}
    (disciplined : Disciplined start handed) (next : h.nonce = start + taken handed) :
    Disciplined start (handed ++ [h]) := by
  intro before k after same
  rcases List.eq_nil_or_concat after with rfl | ⟨rest, last, rfl⟩
  · obtain ⟨rfl, label⟩ := List.append_inj' same rfl
    cases label
    exact next
  · rw [List.concat_eq_append, ← List.cons_append, ← List.append_assoc] at same
    exact disciplined before k rest (List.append_inj' same rfl).1

/-- The accepted transactions use consecutive nonces, from `start` on. -/
theorem Disciplined.consecutive {start : Nat} {handed : List Handed}
    (disciplined : Disciplined start handed) :
    (handed.filter Handed.accepted).map Handed.nonce = List.range' start (taken handed) := by
  induction handed using List.reverseRecOn with
  | nil => rfl
  | append_singleton handed h ih =>
    have earlier : Disciplined start handed := by
      intro before k after same
      apply disciplined before k (after ++ [h])
      rw [same]
      simp
    have last := disciplined handed h [] rfl
    rw [List.filter_append, List.map_append, ih earlier, taken_append]
    cases accepted : h.accepted with
    | false => simp [taken, accepted]
    | true => simp [taken, accepted, last, List.range'_concat]

/-! ## The invariant of a cycle -/

/-- What the cycle keeps: the wallet's count and its ledger agree, the ledger is
disciplined, and a nonce that is kept is the next one. -/
structure Sound (start : Nat) (c : Keeper.Cycle (Wallet ν)) : Prop where
  count : c.world.accepted = start + taken c.world.handed
  disciplined : Disciplined start c.world.handed
  next : ∀ sending, c.sending = some sending → sending.nonce = c.world.accepted

/-- A request that sends nothing. -/
def Quiet (request : Request (Wallet ν) α) : Prop :=
  ∀ w, (request w).2.accepted = w.accepted ∧ (request w).2.handed = w.handed

theorem plain_quiet (request : Request ν α) : Quiet (plain request) := fun _ => ⟨rfl, rfl⟩

theorem Quiet.reply {request : Request (Wallet ν) α} (quiet : Quiet request)
    {answer : Except Thrown α} {w w' : Wallet ν} (replied : request w = (answer, w')) :
    w'.accepted = w.accepted ∧ w'.handed = w.handed := by
  have kept := quiet w
  rwa [replied] at kept

theorem countingNonce_quiet (request : Request ν NonceAndFees) : Quiet (countingNonce request) := by
  intro w
  unfold countingNonce
  split
  · rename_i replied
    exact (plain_quiet request).reply replied
  · rename_i replied
    exact (plain_quiet request).reply replied

variable {start : Nat} {node : Client ν} {accepts : Transaction → ν → Bool} {par : Parameters}
variable {c : Keeper.Cycle (Wallet ν)}

/-- Only the wallet and the kept nonce matter. -/
theorem Sound.congr {c' : Keeper.Cycle (Wallet ν)} (sound : Sound start c)
    (accepted : c'.world.accepted = c.world.accepted) (handed : c'.world.handed = c.world.handed)
    (kept : ∀ sending, c'.sending = some sending → sending.nonce = c.world.accepted) :
    Sound start c' := by
  constructor
  · rw [accepted, handed]
    exact sound.count
  · rw [handed]
    exact sound.disciplined
  · rw [accepted]
    exact kept

theorem Sound.asked (sound : Sound start c) {request : Request (Wallet ν) α}
    (quiet : Quiet request) {answer : Except Thrown α} {c' : Keeper.Cycle (Wallet ν)}
    (asked : c.ask request = (answer, c')) : Sound start c' := by
  unfold Cycle.ask at asked
  injection asked with _ same
  subst same
  exact sound.congr (quiet c.world).1 (quiet c.world).2 sound.next

theorem Sound.update (sound : Sound start c) (f : CycleResult → CycleResult) :
    Sound start (c.update f) :=
  sound.congr rfl rfl sound.next

theorem Sound.warn (sound : Sound start c) (issue : KeeperIssue) : Sound start (c.warn issue) :=
  sound.update _

/-- A failed attempt drops the nonce. -/
theorem Sound.fail (sound : Sound start c) {volumeId : Bytes32} {hash : Option Bytes32} {e : Thrown} :
    Sound start (failOne volumeId hash e c).2 :=
  sound.congr rfl rfl nofun

/-! ## One volume -/

/-- The node's count is the nonce that is read. -/
theorem counted {request : Request ν NonceAndFees} {read : NonceAndFees} {w w' : Wallet ν}
    (answered : countingNonce request w = (.ok read, w')) : read.nonce = w'.accepted := by
  unfold countingNonce at answered
  split at answered
  · cases answered
  · cases answered
    rfl

theorem Sound.readSending (sound : Sound start c) {answer : Except Thrown Sending}
    {c' : Keeper.Cycle (Wallet ν)} (read : readSending (walletClient node accepts) c = (answer, c')) :
    Sound start c' ∧ ∀ s, answer = .ok s → s.nonce = c'.world.accepted := by
  unfold Keeper.readSending at read
  have quiet : Quiet (walletClient node accepts).readNonceAndFees := countingNonce_quiet _
  split at read
  · rename_i asked
    cases read
    exact ⟨sound.asked quiet asked, nofun⟩
  · rename_i c₁ asked
    cases read
    refine ⟨sound.asked quiet asked, fun s same => ?_⟩
    cases same
    unfold Cycle.ask at asked
    injection asked with first second
    rw [← second]
    exact counted (Prod.ext first rfl)

theorem Sound.useSending (sound : Sound start c) {answer : Except Thrown Sending}
    {c' : Keeper.Cycle (Wallet ν)} (used : useSending (walletClient node accepts) c = (answer, c')) :
    Sound start c' ∧ ∀ s, answer = .ok s → s.nonce = c'.world.accepted := by
  unfold Keeper.useSending at used
  split at used
  · rename_i s kept
    cases used
    refine ⟨sound, fun s same => ?_⟩
    cases same
    exact sound.next s kept
  · split at used
    · rename_i read
      cases used
      exact ⟨(sound.readSending read).1, nofun⟩
    · rename_i s c₁ read
      cases used
      obtain ⟨sound, next⟩ := sound.readSending read
      have counted := next s rfl
      refine ⟨sound.congr rfl rfl fun s' same => ?_, fun s' same => ?_⟩
      · cases same
        exact counted
      · cases same
        exact counted

/-- A send enters the ledger with the nonce it was given. -/
theorem Sound.send (sound : Sound start c) {tx : Transaction} (next : tx.nonce = c.world.accepted)
    {answer : Except Thrown Bytes32} {c' : Keeper.Cycle (Wallet ν)}
    (sent : c.ask ((walletClient node accepts).writeContract tx) = (answer, c')) :
    Sound start { c' with sending := none } ∧
      ∀ hash, answer = .ok hash → c'.world.accepted = tx.nonce + 1 := by
  unfold Cycle.ask at sent
  injection sent with first second
  subst second
  have first : (node.writeContract tx c.world.node).1 = answer := first
  have expected : tx.nonce = start + taken c.world.handed := next.trans sound.count
  constructor
  · constructor
    · change (if _ then _ else _) = start + taken (c.world.handed ++ [_])
      rw [taken_append, sound.count]
      split
      · rename_i accepted
        simp [taken, accepted, Nat.add_assoc]
      · rename_i refused
        simp [taken, refused]
    · exact sound.disciplined.snoc expected
    · nofun
  · intro hash same
    change (if _ then _ else _) = tx.nonce + 1
    rw [first, same, next]
    rfl

theorem Sound.triggerVolume (sound : Sound start c) {volumeId : Bytes32} {s : Sending}
    (next : s.nonce = c.world.accepted) {answer : Except Thrown Bytes32} {c' : Keeper.Cycle (Wallet ν)}
    (sent : triggerVolume (walletClient node accepts) par volumeId s c = (answer, c')) :
    Sound start { c' with sending := none } ∧
      ∀ hash, answer = .ok hash → c'.world.accepted = s.nonce + 1 := by
  unfold Keeper.triggerVolume at sent
  have quiet : Quiet ((walletClient node accepts).estimateContractGas par.registry volumeId) :=
    plain_quiet _
  split at sent
  · rename_i asked
    cases sent
    exact ⟨(sound.asked quiet asked).congr rfl rfl nofun, nofun⟩
  · rename_i estimate c₁ asked
    have same : c₁.world.accepted = c.world.accepted := by
      unfold Cycle.ask at asked
      injection asked with _ second
      rw [← second]
      exact (quiet c.world).1
    exact (sound.asked quiet asked).send (next.trans same.symm) sent

theorem Sound.record (sound : Sound start c) {volumeId hash : Bytes32} (summary : VolumeSummary) :
    Sound start (record c volumeId hash summary) := by
  unfold Keeper.record
  cases summary with
  | toppedUp amount => exact sound.update _
  | retired reason => exact (sound.update _).warn _
  | topupSkipped reason => exact (sound.update _).warn _
  | noop => exact sound.update _

theorem Sound.settle (sound : Sound start c) {volumeId hash : Bytes32}
    {answer : Except Thrown VolumeResult} {c' : Keeper.Cycle (Wallet ν)}
    (settled : settle (walletClient node accepts) par volumeId hash c = (answer, c')) :
    Sound start c' := by
  unfold Keeper.settle at settled
  have quiet : Quiet ((walletClient node accepts).waitForTransactionReceipt hash par.confirmations
      par.receiptTimeout) := plain_quiet _
  split at settled
  · rename_i asked
    cases settled
    exact sound.asked quiet asked
  · rename_i receipt c₁ asked
    dsimp only at settled
    split at settled
    · cases settled
      exact sound.asked quiet asked
    · cases settled
      exact (sound.asked quiet asked).record _

/-- One volume, whatever fails on the way. -/
theorem Sound.sendOne (sound : Sound start c) {volumeId : Bytes32} :
    Sound start (sendOne (walletClient node accepts) par volumeId c).2 := by
  unfold Keeper.sendOne
  have quiet : Quiet ((walletClient node accepts).simulateContract par.registry volumeId) :=
    plain_quiet _
  split
  · split
    · rename_i asked
      exact (sound.asked quiet asked).fail
    · rename_i asked
      exact sound.asked quiet asked
  · split
    · rename_i used
      exact (sound.useSending used).1.fail
    · rename_i s c₁ used
      obtain ⟨ready, next⟩ := sound.useSending used
      split
      · rename_i sent
        exact (ready.triggerVolume (next s rfl) sent).1.fail
      · rename_i hash c₂ sent
        obtain ⟨handed, grown⟩ := ready.triggerVolume (next s rfl) sent
        have counted : Sound start { c₂ with sending := some { s with nonce := s.nonce + 1 } } := by
          refine handed.congr rfl rfl fun s' same => ?_
          cases same
          exact (grown hash rfl).symm
        dsimp only
        split
        · rename_i settled
          exact (counted.settle settled).fail
        · rename_i settled
          exact counted.settle settled

/-! ## The cycle -/

theorem Sound.push (sound : Sound start c) (volume : VolumeResult) : Sound start (push c volume) := by
  unfold Keeper.push
  dsimp only
  split
  · exact (sound.update _).update _
  · exact sound.update _

theorem Sound.attempt (sound : Sound start c) (deadline : Int) (i : Nat) (volumeIds : List Bytes32) :
    Sound start (attempt (walletClient node accepts) par deadline i volumeIds c) := by
  induction volumeIds generalizing i c with
  | nil => exact sound
  | cons volumeId volumeIds ih =>
    unfold Keeper.attempt
    split
    · exact sound.warn _
    · exact ih (sound.sendOne.push _) (i + 1)

theorem collectActiveVolumes_quiet (registry : Address) (pageSize : Nat) (blockNumber : BitVec 256) :
    Quiet (collectActiveVolumes (walletClient node accepts) registry pageSize blockNumber) := by
  intro w
  have count : Quiet ((walletClient node accepts).getActiveVolumeCount registry blockNumber) :=
    plain_quiet _
  have pages : ∀ args, Quiet ((walletClient node accepts).getActiveVolumes registry blockNumber args) :=
    fun _ => plain_quiet _
  unfold collectActiveVolumes
  split
  · exact ⟨rfl, rfl⟩
  · split
    · rename_i counted
      exact count.reply counted
    · rename_i total w₁ counted
      obtain ⟨accepted, handed⟩ := count.reply counted
      split
      · exact ⟨accepted, handed⟩
      · split
        · rename_i answered
          obtain ⟨accepted₂, handed₂⟩ := (pages _).reply answered
          exact ⟨accepted₂.trans accepted, handed₂.trans handed⟩
        · rename_i answered
          obtain ⟨accepted₂, handed₂⟩ := (pages _).reply answered
          exact ⟨accepted₂.trans accepted, handed₂.trans handed⟩

theorem Sound.sortViews (sound : Sound start c) (views : List (VolumeView × Bytes32))
    (ids : List Bytes32) : Sound start (views.foldl sortView (ids, c)).2 := by
  induction views generalizing ids c with
  | nil => exact sound
  | cons view views ih =>
    rw [List.foldl_cons, sortView]
    split
    · exact ih sound _
    · exact ih ((sound.update _).warn _) _

theorem Sound.collectIds (sound : Sound start c) {blockNumber : BitVec 256} :
    Sound start (collectIds (walletClient node accepts) par blockNumber c).2 := by
  unfold Keeper.collectIds
  split
  · have quiet : Quiet (collectActiveVolumes (walletClient node accepts) par.registry par.pageSize
        blockNumber) := collectActiveVolumes_quiet _ _ _
    split
    · rename_i asked
      exact sound.asked quiet asked
    · rename_i asked
      exact sound.asked quiet asked
  · rename_i volumeIds selected
    have quiet : Quiet ((walletClient node accepts).getVolumes par.registry blockNumber volumeIds) :=
      plain_quiet _
    split
    · rename_i asked
      exact sound.asked quiet asked
    · rename_i asked
      exact (sound.asked quiet asked).sortViews _ _

theorem Sound.enumerate (sound : Sound start c) :
    Sound start (enumerate (walletClient node accepts) par c).2 := by
  unfold Keeper.enumerate
  have quiet : Quiet (walletClient node accepts).getBlockNumber := plain_quiet _
  split
  · rename_i asked
    exact sound.asked quiet asked
  · rename_i blockNumber c₁ asked
    have numbered := (sound.asked quiet asked).update
      fun r => { r with blockNumber := some blockNumber }
    have collected : Sound start (Keeper.collectIds (walletClient node accepts) par blockNumber _).2 :=
      numbered.collectIds
    dsimp only
    split
    · rename_i same
      rwa [same] at collected
    · rename_i same
      rwa [same] at collected

theorem Sound.triggerVolumes (sound : Sound start c) (keccak256 : BitVec 256 → BitVec 256)
    (deadline : Int) (blockNumber : BitVec 256) (volumeIds : List Bytes32) :
    Sound start (triggerVolumes (walletClient node accepts) keccak256 par deadline blockNumber
      volumeIds c) := by
  unfold Keeper.triggerVolumes
  dsimp only
  split
  · exact (sound.update _).update _
  · split
    · exact ((sound.update _).warn _).attempt ..
    · exact (sound.update _).attempt ..

/-- Whatever the node does, every transaction of a cycle carries the number of
transactions the node accepted from the wallet before it. So the accepted ones
use each nonce from the first on exactly once. -/
theorem nonce_discipline (node : Client ν) (accepts : Transaction → ν → Bool)
    (keccak256 : BitVec 256 → BitVec 256) (par : Parameters) (v : ν) (start : Nat) :
    let after := (runKeeperCycle (walletClient node accepts) keccak256 par ⟨v, start, []⟩).2
    Disciplined start after.handed ∧ after.accepted = start + taken after.handed ∧
      (after.handed.filter Handed.accepted).map Handed.nonce =
        List.range' start (taken after.handed) := by
  have fresh : Sound start (Cycle.start par (⟨v, start, []⟩ : Wallet ν)) := by
    constructor
    · rfl
    · intro before h after same
      simp [Cycle.start] at same
    · nofun
  have enumerated : Sound start (enumerate (walletClient node accepts) par _).2 := fresh.enumerate
  intro after
  obtain ⟨c, sound, last⟩ : ∃ c : Keeper.Cycle (Wallet ν), Sound start c ∧ c.world = after := by
    unfold after runKeeperCycle
    dsimp only
    split
    · rename_i same
      rw [same] at enumerated
      exact ⟨_, enumerated.update _, rfl⟩
    · rename_i same
      rw [same] at enumerated
      exact ⟨_, enumerated.triggerVolumes .., rfl⟩
  rw [← last]
  exact ⟨sound.disciplined, sound.count, sound.disciplined.consecutive⟩

end SwarmVolumes.Guarantees.NonceDiscipline
