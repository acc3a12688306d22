import SwarmVolumes.Library.Fallible
import SwarmVolumes.Library.Timeline
import SwarmVolumes.Source.Indexer.Project

/-!
# Owner attribution

Whom `paid_in_window` counts, in any event log. A fee transfer is the payment of the
volume that its transaction's event in the same place names. Ownership is kept by
block, so the payment counts for the owner at the end of its block.
-/
namespace SwarmVolumes.Guarantees.Attribution
open Library Source.Indexer

/-- The events that say who owns a volume. -/
def ownerEvents : List String := admitEvents ++ ["VolumeOwnershipTransferred"]

/-- The fee transfers and the events that name what they pay for. -/
def paymentEvents : List String := ["Transfer", "Toppedup", "VolumeCreated"]

/-- The volume of an ownership event and its owner from there on. -/
def ownership (row : EventLogRow) : Option (Value × Value) := do
  let owner ← row.args.get? (if row.eventName ∈ admitEvents then "owner" else "to")
  let volumeId ← row.args.get? "volume_id"
  some (volumeId, owner)

/-- The owner the last of these events leaves a volume with. -/
def lastOwner (volumeId : Value) (rows : List EventLogRow) : Option Value :=
  (((rows.filterMap ownership).filter fun change => change.1 = volumeId).getLast?).map Prod.snd

/-- The owner at the end of a row's block. -/
def heldAfterBlock (events : EventLog) (volumeId : Value) (row : EventLogRow) : Option Value :=
  lastOwner volumeId ((events.of ownerEvents).filter fun r => r.blockNumber ≤ row.blockNumber)

/-- The owner at a row's own place in the chain. -/
def heldAtRow (events : EventLog) (volumeId : Value) (row : EventLogRow) : Option Value :=
  lastOwner volumeId ((events.of ownerEvents).filter fun r => inOrder r row)

/-- The arguments the projector reads of these events are there. -/
structure Legible (events : EventLog) : Prop where
  owners : ∀ row ∈ events.of ownerEvents, ∃ change, ownership row = some change
  volumes : ∀ row ∈ events.of paymentEvents, row.eventName ≠ "Transfer" →
    ∃ volumeId, row.args.get? "volume_id" = some volumeId

/-- The fee transfers of a transaction, in log order. -/
def transfers (events : EventLog) (txHash : String) : List EventLogRow :=
  ((events.of paymentEvents).filter fun r => r.eventName = "Transfer").filter
    fun r => r.txHash = txHash

/-- The events of a transaction that name a paid volume, in log order. -/
def siblings (events : EventLog) (txHash : String) : List EventLogRow :=
  ((events.of paymentEvents).filter fun r => r.eventName ≠ "Transfer").filter
    fun r => r.txHash = txHash

/-- The sibling of a transfer has its place in the transaction. -/
def Sibling (events : EventLog) (transfer sibling : EventLogRow) : Prop :=
  ∃ (txHash : String) (i : Nat), (transfers events txHash)[i]? = some transfer ∧
    (siblings events txHash)[i]? = some sibling

/-- Every transfer has a sibling, in its block. -/
def Paired (events : EventLog) : Prop := ∀ txHash,
  List.Forall₂ (fun transfer sibling => transfer.blockNumber = sibling.blockNumber)
    (transfers events txHash) (siblings events txHash)

/-- How many owners paid in a window, where `held` says who owned a paid volume. -/
def Counts (events : EventLog) (held : Value → EventLogRow → Option Value)
    (asOfTs n count : Nat) : Prop :=
  ∃ owners : Finset Value, count = owners.card ∧ ∀ owner, owner ∈ owners ↔
    ∃ transfer sibling volumeId, Sibling events transfer sibling ∧
      sibling.args.get? "volume_id" = some volumeId ∧
      (asOfTs : Int) - n * oneDay ≤ transfer.blockTs ∧ transfer.blockTs ≤ asOfTs ∧
      held volumeId sibling = some owner

/-! ## Ownership -/

variable {events : EventLog} {row : EventLogRow} {volumeId owner : Value}

theorem arg_ok {key : String} {value : Value} (present : row.args.get? key = some value) :
    row.arg key = .ok value := by
  rw [LogRow.arg, present]
  rfl

/-- An ownership event with the block it is kept by. -/
def dated (row : EventLogRow) : Option (Value × Nat × Value) :=
  (ownership row).map fun change => (change.1, row.blockNumber, change.2)

theorem timelineStep_ok (owned : ownership row = some (volumeId, owner))
    (timeline : Dict Value (List (Nat × Value))) :
    timelineStep timeline row = .ok (timeline.push volumeId (row.blockNumber, owner)) := by
  obtain ⟨named, first, rest⟩ := Option.bind_eq_some_iff.mp owned
  obtain ⟨id, second, same⟩ := Option.bind_eq_some_iff.mp rest
  obtain ⟨rfl, rfl⟩ := Prod.mk.injEq .. ▸ Option.some.inj same
  unfold timelineStep
  by_cases admits : row.eventName ∈ admitEvents
  · rw [if_pos admits] at first ⊢
    rw [arg_ok first, ok_bind, arg_ok second]
    rfl
  · rw [if_neg admits] at first ⊢
    rw [arg_ok first, ok_bind, arg_ok second]
    rfl

theorem timelineLoop {rows : List EventLogRow}
    (legible : ∀ row ∈ rows, ∃ change, ownership row = some change)
    (timeline : Dict Value (List (Nat × Value))) :
    rows.foldlM timelineStep timeline =
      .ok ((rows.filterMap dated).foldl (fun d change => d.push change.1 change.2) timeline) := by
  induction rows generalizing timeline with
  | nil => rfl
  | cons row rows ih =>
    obtain ⟨⟨id, owner⟩, owned⟩ := legible row (List.mem_cons_self ..)
    have found : dated row = some (id, row.blockNumber, owner) := by
      rw [dated, owned]
      rfl
    rw [List.foldlM_cons, timelineStep_ok owned, ok_bind, List.filterMap_cons_some found,
      List.foldl_cons]
    exact ih (fun row' member => legible row' (List.mem_cons_of_mem _ member)) _

/-- The changes of one volume up to a block, with their blocks and without. -/
theorem dated_upTo (rows : List EventLogRow) (volumeId : Value) (block : Nat) :
    (before Prod.fst block (((rows.filterMap dated).filter fun c => c.1 = volumeId).map
      Prod.snd)).map Prod.snd =
    ((((rows.filter fun r => r.blockNumber ≤ block).filterMap ownership).filter
      fun change => change.1 = volumeId)).map Prod.snd := by
  unfold before
  induction rows with
  | nil => rfl
  | cons row rows ih =>
    cases owned : ownership row with
    | none =>
      have undated : dated row = none := by
        rw [dated, owned]
        rfl
      rw [List.filterMap_cons_none undated, ih]
      by_cases early : row.blockNumber ≤ block
      · simp [early, owned]
      · simp [early]
    | some change =>
      have found : dated row = some (change.1, row.blockNumber, change.2) := by
        rw [dated, owned]
        rfl
      rw [List.filterMap_cons_some found]
      by_cases here : change.1 = volumeId
      · by_cases early : row.blockNumber ≤ block
        · simp [here, early, owned, ih]
        · simp [here, early, ih]
      · by_cases early : row.blockNumber ≤ block
        · simp [here, early, owned, ih]
        · simp [here, early, ih]

theorem of_blocks (events : EventLog) (names : List String) :
    (events.of names).Pairwise fun a b => a.blockNumber ≤ b.blockNumber := by
  have sorted : (events.of names).Pairwise inOrder := List.pairwise_insertionSort ..
  refine sorted.imp fun order => ?_
  unfold inOrder at order
  omega

/-- `_owner_timeline` tells the owner at the end of every block. -/
theorem ownerTimeline_ok (legible : Legible events) :
    ∃ timeline, ownerTimeline events = .ok timeline ∧ ∀ volumeId row,
      ownerAt timeline volumeId row.blockNumber = heldAfterBlock events volumeId row := by
  refine ⟨_, timelineLoop legible.owners [], fun volumeId row => ?_⟩
  have ordered : ((((events.of ownerEvents).filterMap dated).filter
      fun change => change.1 = volumeId).map Prod.snd).Pairwise fun a b => a.1 ≤ b.1 := by
    rw [List.pairwise_map]
    refine ((of_blocks events ownerEvents).filterMap _ ?_).filter _
    rintro a b order c first c' second
    obtain ⟨_, _, rfl⟩ := Option.map_eq_some_iff.mp first
    obtain ⟨_, _, rfl⟩ := Option.map_eq_some_iff.mp second
    exact order
  rw [ownerAt, Dict.get?_foldl_push, Dict.get?_nil, Option.getD_none, List.nil_append,
    takeWhile_eq_before ordered, ← List.getLast?_map, dated_upTo, List.getLast?_map]
  rfl

/-! ## Payments -/

theorem mem_paymentPairs {transfer sibling : EventLogRow} :
    (transfer, sibling) ∈ paymentPairs events ↔ Sibling events transfer sibling := by
  unfold paymentPairs
  dsimp only
  rw [List.mem_flatMap]
  constructor
  · rintro ⟨⟨txHash, group⟩, entry, zipped⟩
    obtain rfl := Dict.of_mem_group entry
    rw [Dict.get?_group] at zipped
    obtain ⟨i, found⟩ := List.mem_iff_getElem?.mp zipped
    exact ⟨txHash, i, List.getElem?_zip_eq_some.mp found⟩
  · rintro ⟨txHash, i, first, second⟩
    obtain ⟨listed, same⟩ := List.mem_filter.mp (List.mem_of_getElem? first)
    obtain rfl := of_decide_eq_true same
    refine ⟨_, Dict.mem_group listed, ?_⟩
    rw [Dict.get?_group]
    exact List.mem_iff_getElem?.mpr ⟨i, List.getElem?_zip_eq_some.mpr ⟨first, second⟩⟩

/-- A payment as the window loop sees it. -/
def payment (pair : EventLogRow × EventLogRow) : Nat × Value × Nat :=
  (pair.1.blockTs, (pair.2.args.get? "volume_id").getD (.int 0), pair.1.blockNumber)

theorem sibling_names (legible : Legible events) {transfer sibling : EventLogRow}
    (paired : Sibling events transfer sibling) :
    ∃ volumeId, sibling.args.get? "volume_id" = some volumeId := by
  obtain ⟨txHash, i, _, found⟩ := paired
  obtain ⟨listed, named⟩ := List.mem_filter.mp (List.mem_of_mem_filter (List.mem_of_getElem? found))
  exact legible.volumes sibling listed (of_decide_eq_true named)

theorem payments_ok (legible : Legible events) :
    (paymentPairs events).mapM paymentOf = .ok ((paymentPairs events).map payment) := by
  refine mapM_ok fun pair member => ?_
  obtain ⟨volumeId, named⟩ := sibling_names legible (mem_paymentPairs.mp member)
  rw [paymentOf, arg_ok named, ok_bind, payment, named]
  rfl

theorem windowKey_injective {m n : Nat} (same : toString m ++ "d" = toString n ++ "d") : m = n := by
  have digits := String.ofList_injective ((String.append_left_inj "d").mp same)
  rw [← Nat.ofDigitChars_ten_toDigits (n := m), ← Nat.ofDigitChars_ten_toDigits (n := n)]
  exact congrArg (Nat.ofDigitChars 10 · 0) digits

/-- The owners a timeline names for the payments of a window. -/
def payers (events : EventLog) (timeline : Dict Value (List (Nat × Value))) (asOfTs n : Nat) :
    Finset Value :=
  (((paymentPairs events).map payment).filterMap fun (ts, volumeId, block) =>
    if (asOfTs : Int) - n * oneDay ≤ ts ∧ ts ≤ asOfTs then ownerAt timeline volumeId block
    else none).toFinset

/-- `paid_in_window` fills its dictionary with the number of payers of each window. -/
theorem paidInWindow_eq (legible : Legible events) (asOfTs : Nat) (windows : List Nat) :
    ∃ timeline, ownerTimeline events = .ok timeline ∧
      (∀ volumeId row, ownerAt timeline volumeId row.blockNumber = heldAfterBlock events volumeId row) ∧
      paidInWindow events asOfTs windows = .ok (windows.foldl (fun result n =>
        result.set (toString n ++ "d") (payers events timeline asOfTs n).card) []) := by
  obtain ⟨timeline, computed, held⟩ := ownerTimeline_ok legible
  refine ⟨timeline, computed, held, ?_⟩
  rw [paidInWindow, computed, ok_bind, payments_ok legible, ok_bind, bind_pure_comp,
    List.map_eq_map, List.foldl_map]
  rfl

/-- The spec of `paid_in_window`. -/
theorem paidInWindow_ok (legible : Legible events) (asOfTs : Nat) (windows : List Nat) :
    ∃ timeline, ownerTimeline events = .ok timeline ∧
      (∀ volumeId row, ownerAt timeline volumeId row.blockNumber = heldAfterBlock events volumeId row) ∧
      ∃ paid, paidInWindow events asOfTs windows = .ok paid ∧
        ∀ n ∈ windows, paid.get? (toString n ++ "d") = some (payers events timeline asOfTs n).card := by
  obtain ⟨timeline, computed, held, ran⟩ := paidInWindow_eq legible asOfTs windows
  refine ⟨timeline, computed, held, _, ran, fun n member => ?_⟩
  exact Dict.get?_foldl_set (fun m n same => by rw [windowKey_injective same]) member

theorem mem_payers {timeline : Dict Value (List (Nat × Value))} {asOfTs n : Nat} :
    owner ∈ payers events timeline asOfTs n ↔ ∃ transfer sibling, Sibling events transfer sibling ∧
      (asOfTs : Int) - n * oneDay ≤ transfer.blockTs ∧ transfer.blockTs ≤ asOfTs ∧
      ownerAt timeline ((sibling.args.get? "volume_id").getD (.int 0)) transfer.blockNumber =
        some owner := by
  rw [payers, List.mem_toFinset, List.filterMap_map, List.mem_filterMap]
  constructor
  · rintro ⟨⟨transfer, sibling⟩, listed, found⟩
    obtain ⟨⟨late, early⟩, held⟩ := Option.ite_none_right_eq_some.mp found
    exact ⟨transfer, sibling, mem_paymentPairs.mp listed, late, early, held⟩
  · rintro ⟨transfer, sibling, paired, late, early, held⟩
    refine ⟨(transfer, sibling), mem_paymentPairs.mpr paired, ?_⟩
    exact Option.ite_none_right_eq_some.mpr ⟨⟨late, early⟩, held⟩

theorem sibling_block (paired : Paired events) {transfer sibling : EventLogRow}
    (found : Sibling events transfer sibling) : transfer.blockNumber = sibling.blockNumber := by
  obtain ⟨txHash, i, first, second⟩ := found
  obtain ⟨inside, rfl⟩ := List.getElem?_eq_some_iff.mp first
  obtain ⟨inside', rfl⟩ := List.getElem?_eq_some_iff.mp second
  exact (paired txHash).get inside inside'

/-- Nobody else got the volume later in the block. -/
theorem held_of_unmoved {events : EventLog} {volumeId : Value} {row : EventLogRow}
    (unmoved : ∀ change ∈ events.of ownerEvents, change.blockNumber = row.blockNumber →
      row.logIndex < change.logIndex → (ownership change).map Prod.fst ≠ some volumeId) :
    heldAfterBlock events volumeId row = heldAtRow events volumeId row := by
  have kept : ∀ rows : List EventLogRow, (∀ change ∈ rows, change ∈ events.of ownerEvents) →
      (((rows.filter fun r => r.blockNumber ≤ row.blockNumber).filterMap ownership).filter
        fun change => change.1 = volumeId) =
      ((rows.filter fun r => inOrder r row).filterMap ownership).filter
        fun change => change.1 = volumeId := by
    intro rows listed
    induction rows with
    | nil => rfl
    | cons change rows ih =>
      have rest := ih fun other member => listed other (List.mem_cons_of_mem _ member)
      by_cases before : inOrder change row
      · have early : change.blockNumber ≤ row.blockNumber := by
          unfold inOrder at before
          omega
        rw [List.filter_cons_of_pos (by simpa using early),
          List.filter_cons_of_pos (by simpa using before)]
        cases owned : ownership change with
        | none => rw [List.filterMap_cons_none owned, List.filterMap_cons_none owned, rest]
        | some own =>
          rw [List.filterMap_cons_some owned, List.filterMap_cons_some owned, List.filter_cons,
            List.filter_cons, rest]
      · have skipped : (change :: rows).filter (fun r => inOrder r row) =
            rows.filter fun r => inOrder r row :=
          List.filter_cons_of_neg (by rwa [decide_eq_true_eq])
        rw [skipped, ← rest]
        by_cases early : change.blockNumber ≤ row.blockNumber
        · have other := unmoved change (listed change (List.mem_cons_self ..))
            (by unfold inOrder at before; omega) (by unfold inOrder at before; omega)
          rw [List.filter_cons_of_pos (by simpa using early)]
          cases owned : ownership change with
          | none => rw [List.filterMap_cons_none owned]
          | some own =>
            rw [owned] at other
            rw [List.filterMap_cons_some owned, List.filter_cons_of_neg (by simpa using other)]
        · rw [List.filter_cons_of_neg (by simpa using early)]
  unfold heldAfterBlock heldAtRow lastOwner
  rw [kept _ fun _ member => member]

/-- `paid_in_window` counts the owners at the end of the payment's block, who are the
owners at the payment unless the volume changes hands later in that block. -/
theorem counts_block_owners (legible : Legible events) (paired : Paired events) (asOfTs : Nat)
    (windows : List Nat) :
    (∃ paid, paidInWindow events asOfTs windows = .ok paid ∧ ∀ n ∈ windows, ∃ count,
      paid.get? (toString n ++ "d") = some count ∧
        Counts events (heldAfterBlock events) asOfTs n count) ∧
    ∀ volumeId sibling, (∀ change ∈ events.of ownerEvents,
      change.blockNumber = sibling.blockNumber → sibling.logIndex < change.logIndex →
        (ownership change).map Prod.fst ≠ some volumeId) →
      heldAfterBlock events volumeId sibling = heldAtRow events volumeId sibling := by
  obtain ⟨timeline, _, held, paid, ran, counted⟩ := paidInWindow_ok legible asOfTs windows
  refine ⟨⟨paid, ran, fun n member => ⟨_, counted n member, _, rfl, fun owner => ?_⟩⟩,
    fun volumeId sibling => held_of_unmoved⟩
  rw [mem_payers]
  constructor
  · rintro ⟨transfer, sibling, found, late, early, owned⟩
    obtain ⟨volumeId, named⟩ := sibling_names legible found
    rw [named, Option.getD_some, sibling_block paired found, held] at owned
    exact ⟨transfer, sibling, volumeId, found, named, late, early, owned⟩
  · rintro ⟨transfer, sibling, volumeId, found, named, late, early, owned⟩
    refine ⟨transfer, sibling, found, late, early, ?_⟩
    rw [named, Option.getD_some, sibling_block paired found, held, owned]

/-! ## A volume that changes hands in the block of its payment -/

def sampleRow (block logIndex : Nat) (txHash eventName : String) (args : Dict String Value) :
    EventLogRow :=
  { deploymentId := (100, "0x1"), blockNumber := block, blockTs := 1000 + block, txHash, txIndex := 0,
    logIndex, emitter := "0x1", eventName, args }

def sampleRows : List EventLogRow :=
  [sampleRow 10 0 "0xa1" "Transfer" [("value", .int 5)],
    sampleRow 10 1 "0xa1" "VolumeCreated" [("volume_id", .str "0xv"), ("owner", .str "0xA")],
    sampleRow 11 0 "0xa2" "Transfer" [("value", .int 5)],
    sampleRow 11 1 "0xa2" "Toppedup" [("volume_id", .str "0xv"), ("amount", .int 5)],
    sampleRow 11 2 "0xa3" "VolumeOwnershipTransferred"
      [("volume_id", .str "0xv"), ("from", .str "0xA"), ("to", .str "0xB")]]

def sample : EventLog := RowLog.fromRows sampleRows

theorem sample_payments : sample.of paymentEvents = sampleRows.take 4 := by decide +kernel

theorem sample_owners : sample.of ownerEvents = [sampleRows[1], sampleRows[4]] := by decide +kernel

example : (paymentPairs sample).length = 2 := by decide +kernel

theorem sample_legible : Legible sample where
  owners row member := Option.isSome_iff_exists.mp <| by
    rw [sample_owners] at member
    revert row
    decide +kernel
  volumes row member := fun other => Option.isSome_iff_exists.mp <| by
    rw [sample_payments] at member
    revert row
    decide +kernel

theorem sample_paired : Paired sample := by
  intro txHash
  unfold transfers siblings
  rw [sample_payments]
  by_cases first : "0xa1" = txHash
  · subst first
    exact .cons rfl .nil
  · by_cases second : "0xa2" = txHash
    · subst second
      exact .cons rfl .nil
    · simp [sampleRows, sampleRow, first, second]

theorem sample_paid : paidInWindow sample 2000 [1] = .ok [("1d", 2)] := by decide +kernel

theorem counts_block_owners_sample :
    ∃ paid, paidInWindow sample 2000 [1] = .ok paid ∧ ∀ n ∈ [1], ∃ count,
      paid.get? (toString n ++ "d") = some count ∧ Counts sample (heldAfterBlock sample) 2000 n count :=
  (counts_block_owners sample_legible sample_paired 2000 [1]).1

/-- Both payments are the first owner's, and it counts two owners. -/
theorem counts_next_owner : Legible sample ∧ Paired sample ∧
    paidInWindow sample 2000 [1] = .ok [("1d", 2)] ∧ ¬ Counts sample (heldAtRow sample) 2000 1 2 := by
  refine ⟨sample_legible, sample_paired, sample_paid, ?_⟩
  rintro ⟨owners, two, counted⟩
  have paidFor : ∀ pair ∈ paymentPairs sample,
      heldAtRow sample (.str "0xv") pair.2 = some (.str "0xA") ∧
        pair.2.args.get? "volume_id" = some (.str "0xv") := by
    decide +kernel
  have one : owners ⊆ {.str "0xA"} := by
    intro owner member
    obtain ⟨transfer, sibling, volumeId, found, named, _, _, held⟩ := (counted owner).mp member
    obtain ⟨first, same⟩ := paidFor _ (mem_paymentPairs.mpr found)
    obtain rfl := Option.some.inj (same.symm.trans named)
    exact Finset.mem_singleton.mpr (Option.some.inj (held.symm.trans first))
  have few := Finset.card_le_card one
  rw [← two, Finset.card_singleton] at few
  omega

end SwarmVolumes.Guarantees.Attribution
