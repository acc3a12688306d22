import SwarmVolumes.Source.Callees
import Mathlib.Logic.Function.Basic

/-!
# Reference contracts

A small BZZ and a small PostageStamp that run and that meet every assumption
`Callees` states about the deployed ones, so that those assumptions are
consistent and a registry can be executed on concrete inputs.
-/
namespace SwarmVolumes.Source.Reference
open Library Library.Erc20

/-- Where the token is deployed. -/
def tokenAddress : Address := 0x300

/-- Balances, allowances and, for the legacy permit, expiries. -/
structure Ledger where
  balances : Address → Nat
  allowances : Address → Address → Nat
  expiries : Address → Address → Nat

namespace Ledger

def setAllowance (t : Ledger) (owner spender : Address) (n : Nat) : Ledger :=
  { t with
    allowances := Function.update t.allowances owner
      (Function.update (t.allowances owner) spender n) }

theorem setAllowance_allowances (t : Ledger) (owner spender : Address) (n : Nat) (o s : Address) :
    (t.setAllowance owner spender n).allowances o s =
      if o = owner ∧ s = spender then n else t.allowances o s := by
  unfold setAllowance
  by_cases same : o = owner
  · subst same
    simp only [Function.update_self, true_and]
    exact Function.update_apply ..
  · simp [same]

/-- A permit that expired before `now`. -/
def lapsed (t : Ledger) (now : Nat) (owner spender : Address) : Prop :=
  t.allowances owner spender = Word.unlimited ∧ t.expiries owner spender ≠ 0 ∧
    t.expiries owner spender < now

instance (t : Ledger) (now : Nat) (owner spender : Address) : Decidable (t.lapsed now owner spender) :=
  inferInstanceAs (Decidable (_ ∧ _ ∧ _))

def transferFrom (now : Nat) (t : Ledger) (sender src dst : Address) (amount : Nat) :
    Option (Bool × Ledger × List CalleeLog) :=
  if src = 0 ∨ dst = 0 ∨ t.balances src < amount then none
  else if sender ≠ src ∧ (t.allowances src sender < amount ∨ t.lapsed now src sender) then none
  else
    let balances := if src = dst then t.balances else moved t.balances src dst amount
    let left := if sender = src then t.allowances src sender else spent (t.allowances src sender) amount
    some (true, { t.setAllowance src sender left with balances }, [.transfer src dst amount])

/-- An unlimited approval does not expire. -/
def approve (_ : Nat) (t : Ledger) (sender spender : Address) (amount : Nat) :
    Option (Bool × Ledger × List CalleeLog) :=
  if sender = 0 ∨ spender = 0 then none
  else
    let expiries := if amount = Word.unlimited then
      Function.update t.expiries sender (Function.update (t.expiries sender) spender 0)
    else t.expiries
    some (true, { t.setAllowance sender spender amount with expiries }, [.other tokenAddress])

theorem transferFrom_success {now amount : Nat} {t t' : Ledger} {sender src dst : Address}
    {logs : List CalleeLog} (ok : t.transferFrom now sender src dst amount = some (true, t', logs)) :
    amount ≤ t.balances src ∧ (sender ≠ src → amount ≤ t.allowances src sender) ∧
    t' = { t.setAllowance src sender (if sender = src then t.allowances src sender
        else spent (t.allowances src sender) amount) with
      balances := if src = dst then t.balances else moved t.balances src dst amount } ∧
    logs = [.transfer src dst amount] := by
  unfold transferFrom at ok
  split at ok
  · cases ok
  · rename_i funded
    split at ok
    · cases ok
    · rename_i allowed
      cases ok
      refine ⟨?_, fun different => ?_, rfl, rfl⟩
      · omega
      · by_contra less
        exact allowed ⟨different, .inl (Nat.lt_of_not_le less)⟩

theorem approve_success (now : Nat) {amount : Nat} {t t' : Ledger} {sender spender : Address}
    {logs : List CalleeLog} (ok : t.approve now sender spender amount = some (true, t', logs)) :
    t' = { t.setAllowance sender spender amount with
      expiries := if amount = Word.unlimited then
        Function.update t.expiries sender (Function.update (t.expiries sender) spender 0)
      else t.expiries } ∧ logs = [.other tokenAddress] := by
  unfold approve at ok
  split at ok
  · cases ok
  · cases ok
    exact ⟨rfl, rfl⟩

end Ledger

/-- BZZ over a ledger, with the `expirations` getter. -/
def bzz : Bzz Ledger where
  balanceOf := Ledger.balances
  allowance := Ledger.allowances
  transferFrom now t sender src dst amount := t.transferFrom now sender src dst amount
  approve now t sender spender amount := t.approve now sender spender amount
  expirations := some Ledger.expiries

theorem bzz_documented : bzz.Documented where
  moves := by
    intro now t sender src dst n t' logs different ok
    obtain ⟨funded, _, rfl, _⟩ := Ledger.transferFrom_success ok
    exact ⟨funded, fun a => congrFun (if_neg different) a⟩
  spends := by
    intro now t sender src dst n t' logs different ok
    obtain ⟨_, allowed, rfl, _⟩ := Ledger.transferFrom_success ok
    refine ⟨allowed different, fun o s => ?_⟩
    rw [if_neg different]
    exact Ledger.setAllowance_allowances ..
  keeps := by
    intro now t sender spender n t' logs ok a
    obtain ⟨rfl, _⟩ := Ledger.approve_success now ok
    rfl
  approves := by
    intro now t sender spender n t' logs ok o s
    obtain ⟨rfl, _⟩ := Ledger.approve_success now ok
    exact Ledger.setAllowance_allowances ..
  transferFrom_logs := by
    intro now t sender src dst n t' logs ok
    obtain ⟨_, _, _, rfl⟩ := Ledger.transferFrom_success ok
    rfl
  approve_logs := by
    intro now t sender spender n t' logs ok
    obtain ⟨_, rfl⟩ := Ledger.approve_success now ok
    rfl
  transferFrom_expirations := by
    intro now t sender src dst n t' logs expirations getter ok
    obtain ⟨_, _, rfl, _⟩ := Ledger.transferFrom_success ok
    cases getter
    rfl
  approve_expirations := by
    intro now t sender spender n t' logs expirations getter ok o s different
    obtain ⟨rfl, _⟩ := Ledger.approve_success now ok
    cases getter
    change (if n = Word.unlimited then _ else t.expiries) o s = t.expiries o s
    split
    · rw [Function.update_of_ne different]
    · rfl

theorem bzz_pays : bzz.Pays true where
  transferFrom_succeeds := by
    intro now t sender src dst n srcNotZero dstNotZero different funded allowed current
    refine ⟨_, _, (if_neg ?_).trans (if_neg ?_)⟩
    · rintro (zero | zero | less)
      · exact srcNotZero zero
      · exact dstNotZero zero
      · exact absurd funded (Nat.not_le.mpr less)
    · rintro ⟨_, less | ⟨whole, set, past⟩⟩
      · exact absurd allowed (Nat.not_le.mpr less)
      · rcases current rfl whole _ rfl with zero | later
        · exact set zero
        · exact absurd later (Nat.not_le.mpr past)
  approve_succeeds := by
    intro now t sender spender n senderNotZero spenderNotZero _
    exact ⟨_, _, if_neg (not_or.mpr ⟨senderNotZero, spenderNotZero⟩)⟩

theorem bzz_expires : bzz.Expires where
  transferFrom_current := by
    intro now t sender src dst n t' logs expirations different getter ok whole
    cases getter
    by_contra lapsed
    rw [not_or, Nat.not_le] at lapsed
    change t.transferFrom now sender src dst n = some (true, t', logs) at ok
    unfold Ledger.transferFrom at ok
    split at ok
    · cases ok
    · rw [if_pos ⟨different, .inr ⟨whole, lapsed⟩⟩] at ok
      cases ok

/-- PostageStamp's storage, as far as the registry can see it. -/
structure Office where
  batches : Bytes32 → Batch
  lastPrice : UInt64
  totalOutPayment : Nat
  lastUpdatedBlock : Nat
  minimumValidityBlocks : UInt64
  minimumBucketDepth : UInt8
  paused : Bool

namespace Office

def setBatch (p : Office) (id : Bytes32) (batch : Batch) : Office :=
  { p with batches := Function.update p.batches id batch }

def currentTotalOutPayment (block : Block) (p : Office) : Option Nat :=
  let total := p.totalOutPayment + (block.number - p.lastUpdatedBlock) * p.lastPrice.toNat
  if total < Word.modulus then some total else none

def minimumInitialBalancePerChunk (p : Office) : Nat :=
  p.minimumValidityBlocks.toNat * p.lastPrice.toNat

/-- `createBatch` by `sender`; `batchId` is the hash of sender and nonce. -/
def createBatch (self : Address) (batchId : Bytes32) (block : Block) (t : Ledger) (p : Office)
    (sender owner : Address) (perChunk : Nat) (depth bucketDepth : UInt8) (immutableFlag : Bool) :
    Option (PostageReply Ledger Office Bytes32) :=
  if p.paused ∨ owner = 0 ∨ bucketDepth < p.minimumBucketDepth ∨ depth ≤ bucketDepth ∨
      (p.batches batchId).owner ≠ 0 ∨ perChunk < p.minimumInitialBalancePerChunk ∨
      Word.modulus ≤ batchCost perChunk depth then none
  else
    match p.currentTotalOutPayment block,
        bzz.transferFrom block.timestamp t self sender self (batchCost perChunk depth) with
    | some outpayment, some (true, t', logs) =>
      some ⟨batchId, t', p.setBatch batchId
        ⟨owner, depth, bucketDepth, immutableFlag, outpayment + perChunk, block.number⟩, logs⟩
    | _, _ => none

def topUp (self : Address) (block : Block) (t : Ledger) (p : Office) (sender : Address)
    (id : Bytes32) (perChunk : Nat) : Option (PostageReply Ledger Office Unit) :=
  let batch := p.batches id
  match p.currentTotalOutPayment block with
  | none => none
  | some outpayment =>
    if p.paused ∨ batch.owner = 0 ∨ batch.normalisedBalance ≤ outpayment ∨
        batch.depth ≤ p.minimumBucketDepth ∨
        batch.normalisedBalance - outpayment + perChunk < p.minimumInitialBalancePerChunk ∨
        Word.modulus ≤ batch.normalisedBalance + perChunk ∨
        Word.modulus ≤ batchCost perChunk batch.depth then none
    else
      match bzz.transferFrom block.timestamp t self sender self (batchCost perChunk batch.depth) with
      | some (true, t', logs) =>
        some ⟨(), t', p.setBatch id
          { batch with normalisedBalance := batch.normalisedBalance + perChunk }, logs⟩
      | _ => none

end Office

/-- PostageStamp at `self`, hashing batch IDs with `keccak256`. -/
def stamp (self : Address) (batchId : Address → Bytes32 → Bytes32) : PostageStamp Ledger Office where
  batches := Office.batches
  currentTotalOutPayment block p := p.currentTotalOutPayment block
  lastPrice := Office.lastPrice
  minimumValidityBlocks := Office.minimumValidityBlocks
  minimumBucketDepth := Office.minimumBucketDepth
  paused := Office.paused
  createBatch block t p sender owner perChunk depth bucketDepth nonce immutableFlag :=
    p.createBatch self (batchId sender nonce) block t sender owner perChunk depth bucketDepth
      immutableFlag
  topUp block t p sender id perChunk := p.topUp self block t sender id perChunk

section
variable {self : Address} {batchId : Address → Bytes32 → Bytes32}

theorem createBatch_success {id : Bytes32} {block : Block} {t : Ledger} {p : Office}
    {sender owner : Address} {perChunk : Nat} {depth bucketDepth : UInt8} {immutableFlag : Bool}
    {r : PostageReply Ledger Office Bytes32}
    (ok : p.createBatch self id block t sender owner perChunk depth bucketDepth immutableFlag =
      some r) :
    p.minimumBucketDepth ≤ bucketDepth ∧ bucketDepth < depth ∧
    batchCost perChunk depth < Word.modulus ∧
    bzz.transferFrom block.timestamp t self sender self (batchCost perChunk depth) =
      some (true, r.bzz, r.logs) ∧
    ∃ batch, r.postage = p.setBatch id batch := by
  unfold Office.createBatch at ok
  split at ok
  · cases ok
  · rename_i checks
    simp only [not_or, UInt8.not_lt, UInt8.not_le, Nat.not_le] at checks
    split at ok
    · rename_i pulled
      cases ok
      exact ⟨checks.2.2.1, checks.2.2.2.1, checks.2.2.2.2.2.2, pulled, _, rfl⟩
    · cases ok

theorem topUp_success {id : Bytes32} {block : Block} {t : Ledger} {p : Office}
    {sender : Address} {perChunk : Nat} {r : PostageReply Ledger Office Unit}
    (ok : p.topUp self block t sender id perChunk = some r) :
    batchCost perChunk (p.batches id).depth < Word.modulus ∧
    bzz.transferFrom block.timestamp t self sender self (batchCost perChunk (p.batches id).depth) =
      some (true, r.bzz, r.logs) ∧
    r.postage = p.setBatch id { p.batches id with
      normalisedBalance := (p.batches id).normalisedBalance + perChunk } := by
  unfold Office.topUp at ok
  dsimp only at ok
  split at ok
  · cases ok
  · split at ok
    · cases ok
    · rename_i checks
      simp only [not_or, Nat.not_le] at checks
      split at ok
      · rename_i pulled
        cases ok
        exact ⟨checks.2.2.2.2.2.2, pulled, rfl⟩
      · cases ok

theorem stamp_documented : (stamp self batchId).Documented bzz self where
  createBatch_pulls := by
    intro b t p sender owner perChunk depth bucketDepth nonce immutableFlag r ok
    obtain ⟨_, _, small, pulled, _⟩ := createBatch_success ok
    exact ⟨small, r.logs, pulled, rfl⟩
  createBatch_deep := by
    intro b t p sender owner perChunk depth bucketDepth nonce immutableFlag r ok
    obtain ⟨low, high, _, _, batch, same⟩ := createBatch_success ok
    exact ⟨UInt8.lt_of_le_of_lt low high, by rw [same]; rfl⟩
  topUp_pulls := by
    intro b t p sender id perChunk r ok
    obtain ⟨small, pulled, _⟩ := topUp_success ok
    exact ⟨small, r.logs, pulled, rfl⟩
  topUp_batch := by
    intro b t p sender id perChunk r ok
    obtain ⟨_, _, same⟩ := topUp_success ok
    have batch : r.postage.batches id = { p.batches id with
        normalisedBalance := (p.batches id).normalisedBalance + perChunk } := by
      rw [same]
      exact Function.update_self ..
    change (r.postage.batches id).owner = _ ∧ (r.postage.batches id).depth = _ ∧
      (r.postage.batches id).normalisedBalance = _
    rw [batch]
    exact ⟨rfl, rfl, rfl⟩
  topUp_frame := by
    intro b t p sender id perChunk r ok
    obtain ⟨_, _, same⟩ := topUp_success ok
    refine ⟨fun other different => ?_, fun now => ?_, ?_, ?_, ?_, ?_⟩
    · change r.postage.batches other = p.batches other
      rw [same]
      exact Function.update_of_ne different ..
    all_goals
      simp only [stamp, same]
      rfl

theorem createBatch_fresh {id : Bytes32} {block : Block} {t : Ledger} {p : Office}
    {sender owner : Address} {perChunk : Nat} {depth bucketDepth : UInt8} {immutableFlag : Bool}
    {r : PostageReply Ledger Office Bytes32}
    (ok : p.createBatch self id block t sender owner perChunk depth bucketDepth immutableFlag =
      some r) :
    r.value = id ∧ (p.batches id).owner = 0 := by
  unfold Office.createBatch at ok
  split at ok
  · cases ok
  · rename_i checks
    simp only [not_or, ne_eq, not_not] at checks
    split at ok
    · cases ok
      exact ⟨rfl, checks.2.2.2.2.1⟩
    · cases ok

theorem stamp_contained : (stamp self batchId).Contained where
  createBatch_fresh := by
    intro b t p sender owner perChunk depth bucketDepth nonce immutableFlag r ok
    obtain ⟨value, fresh⟩ := createBatch_fresh ok
    rw [value]
    exact fresh
  createBatch_other := by
    intro b t p sender owner perChunk depth bucketDepth nonce immutableFlag r other ok different
    obtain ⟨_, _, _, _, batch, same⟩ := createBatch_success ok
    rw [(createBatch_fresh ok).1] at different
    change r.postage.batches other = p.batches other
    rw [same]
    exact Function.update_of_ne different ..
  topUp_balance := by
    intro b t p sender id perChunk r ok
    obtain ⟨_, _, same⟩ := topUp_success ok
    change r.postage.batches id = _
    rw [same]
    exact Function.update_self ..
  topUp_other := by
    intro b t p sender id perChunk r other ok different
    obtain ⟨_, _, same⟩ := topUp_success ok
    change r.postage.batches other = p.batches other
    rw [same]
    exact Function.update_of_ne different ..

theorem createBatch_credited {id : Bytes32} {block : Block} {t : Ledger} {p : Office}
    {sender owner : Address} {perChunk : Nat} {depth bucketDepth : UInt8} {immutableFlag : Bool}
    {r : PostageReply Ledger Office Bytes32}
    (ok : p.createBatch self id block t sender owner perChunk depth bucketDepth immutableFlag =
      some r) :
    ∃ outpayment, p.currentTotalOutPayment block = some outpayment ∧
      r.postage = p.setBatch r.value
        ⟨owner, depth, bucketDepth, immutableFlag, outpayment + perChunk, block.number⟩ := by
  unfold Office.createBatch at ok
  split at ok
  · cases ok
  · split at ok
    · rename_i read _
      cases ok
      exact ⟨_, read, rfl⟩
    · cases ok

theorem stamp_records : (stamp self batchId).Records where
  createBatch_depth := by
    intro b t p sender owner perChunk depth bucketDepth nonce immutableFlag r ok
    obtain ⟨outpayment, read, same⟩ := createBatch_credited ok
    have batch : r.postage.batches r.value =
        ⟨owner, depth, bucketDepth, immutableFlag, outpayment + perChunk, b.number⟩ := by
      rw [same]
      exact Function.update_self ..
    exact congrArg Batch.depth batch

theorem stamp_credits : (stamp self batchId).Credits where
  createBatch_batch := by
    intro b t p sender owner perChunk depth bucketDepth nonce immutableFlag r ok
    obtain ⟨outpayment, read, same⟩ := createBatch_credited ok
    have batch : r.postage.batches r.value =
        ⟨owner, depth, bucketDepth, immutableFlag, outpayment + perChunk, b.number⟩ := by
      rw [same]
      exact Function.update_self ..
    refine ⟨outpayment, read, ?_⟩
    change (r.postage.batches r.value).owner = _ ∧ (r.postage.batches r.value).normalisedBalance = _
    rw [batch]
    exact ⟨rfl, rfl⟩
  createBatch_frame := by
    intro b t p sender owner perChunk depth bucketDepth nonce immutableFlag r ok
    obtain ⟨outpayment, read, same⟩ := createBatch_credited ok
    simp only [stamp, same]
    exact ⟨fun now => rfl, rfl⟩

theorem stamp_accepts : (stamp self batchId).Accepts bzz self where
  topUp_succeeds := by
    intro b t p sender id perChunk outpayment t' logs running present read alive deep enough
      fits cost pulled
    refine ⟨⟨(), t', p.setBatch id { p.batches id with
      normalisedBalance := (p.batches id).normalisedBalance + perChunk }, logs⟩, ?_⟩
    change p.topUp self b t sender id perChunk = _
    have running : p.paused = false := running
    have read : p.currentTotalOutPayment b = some outpayment := read
    have pulled : bzz.transferFrom b.timestamp t self sender self
      (batchCost perChunk (p.batches id).depth) = some (true, t', logs) := pulled
    simp only [Office.topUp, read]
    rw [if_neg, pulled]
    simp only [not_or, UInt8.not_le, Nat.not_le, Nat.not_lt, running]
    exact ⟨Bool.false_ne_true, present, alive, deep, enough, fits, cost⟩

end
end SwarmVolumes.Source.Reference
