import Mathlib
import SwarmVolumes.Guarantees.KeeperOnChain
import SwarmVolumes.Guarantees.Upkeep
import SwarmVolumes.Guarantees.Verdict

/-!
# Upkeep by the keeper

What a report is worth. A report without failures and warnings means that every volume
that was Active at the block it names has been brought to target since; and a volume that
is reported so by one cycle after another, often enough, is never lost.
-/
namespace SwarmVolumes.Guarantees.KeeperUpkeep
open Library Source Source.Keeper Source.SurvivalFloor CycleAccounting Receipts KeeperOnChain ActiveSet
  Runway Upkeep

variable {T P ω : Type} {d : Deployment T P} {outside : World T P → World T P → Prop}
variable {w₀ : World T P} {stray : CalleeLog → Option KeeperEvent}
variable {chain : Chain T P ω} {client : Client ω} {par : Parameters} {c : Keeper.Cycle ω}
variable {keccak256 : BitVec 256 → BitVec 256} {x y : ω} {id : Bytes32}

/-! ## A report without failures and warnings -/

theorem statusOf_ok {failures warnings : List KeeperIssue} (ok : statusOf failures warnings = .ok) :
    failures = [] ∧ warnings = [] := by
  unfold statusOf at ok
  cases failures with
  | cons failure failures => simp at ok
  | nil =>
    cases warnings with
    | cons warning warnings => simp at ok
    | nil => exact ⟨rfl, rfl⟩

/-- What such a report says of the cycle. -/
theorem quiet_result {platform : Platform} {input : CycleReportInput} {now : Int}
    (quiet : (cycleReport platform input now).status = .ok) :
    failures input.result = [] ∧ input.result.warnings = [] ∧ input.dryRun = false := by
  obtain ⟨failed, warned⟩ := statusOf_ok quiet
  have parts := List.append_eq_nil_iff.mp warned
  have inner := List.append_eq_nil_iff.mp (List.append_eq_nil_iff.mp parts.1).1
  refine ⟨failed, parts.2, ?_⟩
  by_contra dry
  rw [Bool.not_eq_false] at dry
  simp [dry] at inner

/-- The volume was brought to target, or was there. -/
def Funded (v : VolumeResult) : Prop :=
  v.status = .success ∧ (v.summary = some .noop ∨ ∃ amount, v.summary = some (.toppedUp amount))

/-- An attempt nothing is said against. -/
theorem quiet_funded {v : VolumeResult} (fate : Fate id v) (sent : v.status ≠ .simulated)
    (kept : failedEntry v = none) (silent : issue v = none) : Funded v := by
  cases fate with
  | simulated => exact absurd rfl sent
  | failed hash e => simp [failedEntry] at kept
  | reverted hash blockNumber gasUsed => simp [failedEntry] at kept
  | success hash blockNumber gasUsed summary =>
    refine ⟨rfl, ?_⟩
    cases summary with
    | toppedUp amount => exact .inr ⟨amount, rfl⟩
    | noop => exact .inl rfl
    | retired reason => simp [issue] at silent
    | topupSkipped reason => simp [issue] at silent

/-- Every volume that was read is attempted, and funded. -/
theorem quiet_all {block : BitVec 256} {ids : List Bytes32}
    (read : enumerate client par (.start par x) = (.ok (block, ids), c)) (sends : par.dryRun = false)
    (failed : failures (runKeeperCycle client keccak256 par x).1 = [])
    (warned : (runKeeperCycle client keccak256 par x).1.warnings = []) :
    ∀ id ∈ ids, ∃ v ∈ (runKeeperCycle client keccak256 par x).1.volumes, v.volumeId = id ∧ Funded v := by
  have law := (read_result keccak256 read).1
  obtain ⟨tries, c₀, c₁, trace, _, _, volumes, _⟩ := law.attempts
  obtain ⟨_, fates, real⟩ := trace_result trace
  obtain ⟨byCount, byDeadline, sum, told⟩ := law.deferred
  rw [warned] at told
  have parts := List.append_eq_nil_iff.mp told.symm
  have inner := List.append_eq_nil_iff.mp parts.1
  have whole : byCount = 0 ∧ byDeadline = 0 := by
    constructor
    · by_contra some
      have silent := (List.append_eq_nil_iff.mp inner.1).2
      simp [deferral, some] at silent
    · by_contra some
      have silent := parts.2
      simp [deferral, some] at silent
  -- nothing deferred: the attempts are the whole rotation
  have count : (runKeeperCycle client keccak256 par x).1.volumes.length = ids.length := by
    rw [← law.volumeCount, ← sum]
    omega
  have order := law.volumes.eq_of_length (by
    rw [List.length_map, count, law.permutation.length_eq])
  intro id member
  have attempted : id ∈ (runKeeperCycle client keccak256 par x).1.volumes.map VolumeResult.volumeId := by
    rw [order]
    exact law.permutation.mem_iff.mpr member
  obtain ⟨v, listed, same⟩ := List.mem_map.mp attempted
  refine ⟨v, listed, same, ?_⟩
  have kept : failedEntry v = none := by
    have all : (runKeeperCycle client keccak256 par x).1.volumes.filterMap failedEntry = [] := by
      by_contra some
      exact absurd failed ((Verdict.failures_nonempty _).mpr (.inr some))
    exact List.filterMap_eq_nil_iff.mp all v listed
  have silent : issue v = none := List.filterMap_eq_nil_iff.mp inner.2 v listed
  rw [volumes] at listed
  obtain ⟨t, tried, rfl⟩ := List.mem_map.mp listed
  exact quiet_funded (fates t tried) (real sends t tried) kept silent

/-! ## From the report to the registry -/

/-- A summary that tells of a volume at target tells of a trigger that ended there. -/
theorem tells_funded {outcome : TriggerOutcome} {summary : VolumeSummary} (tells : Tells outcome summary)
    (funded : summary = .noop ∨ ∃ amount, summary = .toppedUp amount) :
    outcome = .noDeficit ∨ outcome = .toppedUp := by
  cases tells with
  | noDeficit => exact .inl rfl
  | toppedUp amount => exact .inr rfl
  | retired reason => simp at funded
  | skipped reason => simp at funded

/-- A call that brings a volume to target. -/
structure Serviced (d : Deployment T P) (id : Bytes32) (e : Entry T P) : Prop where
  call : e.call = .trigger id
  executed : e.result = execute d e.msg e.before e.call
  established : ∃ exactly, Establishes d e id exactly

/-- A volume reported as funded is. -/
theorem serviced_of_mined (documented : d.Documented) (foreign : Foreign d) {v : VolumeResult}
    {e : Entry T P} (mined : Mined d stray v e) (executed : e.result = execute d e.msg e.before e.call)
    (payers : ExternalPayers d e.before.store) (funded : Funded v) : Serviced d v.volumeId e := by
  obtain ⟨outcome, ok⟩ := mined.triggered executed
  have tells : Tells outcome (summary d stray e.before e.after v.volumeId) :=
    (triggerOne_tells documented foreign payers ok).1
  have ended := funded.2
  simp only [mined.summary, Option.some.injEq] at ended
  have member : (⟨e.before, v.volumeId, outcome, e.after⟩ : TriggerStep T P) ∈
      e.call.steps d e.msg e.before := by
    rw [mined.call]
    simp [Call.steps, triggerSteps, ok]
  refine ⟨mined.call, executed, ?_⟩
  rcases tells_funded tells ended with rfl | rfl
  · exact ⟨false, .noDeficit mined.succeeded member rfl⟩
  · exact ⟨true, .toppedUp mined.succeeded member rfl⟩

theorem forall₂_mem {α β : Type*} {R : α → β → Prop} {as : List α} {bs : List β}
    (all : List.Forall₂ R as bs) {a : α} (member : a ∈ as) : ∃ b ∈ bs, R a b := by
  induction all with
  | nil => simp at member
  | @cons a' b as bs first rest ih =>
    rcases List.mem_cons.mp member with rfl | later
    · exact ⟨b, List.mem_cons_self .., first⟩
    · obtain ⟨b', listed, related⟩ := ih later
      exact ⟨b', List.mem_cons_of_mem _ listed, related⟩

/-- The calls behind the funded volumes of a cycle. -/
theorem cycle_serviced (documented : d.Documented) (foreign : Foreign d) (deployed : Deployed d w₀)
    (serves : Serves d outside w₀ stray chain client) {es more mined : List (Entry T P)}
    {volumes : List VolumeResult}
    (grown : chain.entries (runKeeperCycle client keccak256 par x).2 = es ++ more)
    (listed : mined.Sublist more) (all : List.Forall₂ (Mined d stray) (successes volumes) mined)
    {v : VolumeResult} (member : v ∈ volumes) (funded : Funded v) :
    ∃ e ∈ more, Serviced d v.volumeId e := by
  obtain ⟨e, called, mined⟩ := forall₂_mem all (List.mem_filter.mpr ⟨member, by simp [funded.1]⟩)
  have entered : e ∈ chain.entries (runKeeperCycle client keccak256 par x).2 := by
    rw [grown]
    exact List.mem_append_right _ (listed.subset called)
  obtain ⟨executed, payers⟩ := run_call deployed (serves.run _) entered
  exact ⟨e, listed.subset called, serviced_of_mined documented foreign mined executed payers funded⟩

/-! ## From the registry to the enumeration -/

/-- In mode `all` the volumes are read at the block the cycle starts from. -/
theorem enumerate_all (serves : Serves d outside w₀ stray chain client) (mode : par.mode = .all)
    {block : BitVec 256} {ids : List Bytes32}
    (read : enumerate client par (.start par x) = (.ok (block, ids), c)) :
    ∃ y views, client.getBlockNumber x = (.ok block, y) ∧
      (collectActiveVolumes client par.registry par.pageSize block y).1 = .ok views ∧
      ids = views.map VolumeView.volumeId ∧ Later d outside chain y c.world := by
  unfold enumerate at read
  split at read
  · cases read
  · rename_i b c₁ asked
    dsimp only at read
    unfold collectIds at read
    rw [mode] at read
    dsimp only at read
    split at read
    · cases read
    · rename_i collected
      split at collected
      · cases collected
      · rename_i views c₂ listed
        cases collected
        cases read
        have reply := asked_reply listed
        refine ⟨c₁.world, views, asked_reply asked, congrArg Prod.fst reply, rfl, ?_⟩
        have grown := serves.collectActiveVolumes par.registry par.pageSize block c₁.world
        have left : (collectActiveVolumes client par.registry par.pageSize block c₁.world).2 = c.world :=
          congrArg Prod.snd reply
        rwa [left] at grown

/-- A cycle over all volumes, started at `x`, whose report says that all is well. What it
reads, it reads at the block it names, of a registry that never held too many volumes. -/
structure Quiet (platform : Platform) (d : Deployment T P) (chain : Chain T P ω) (client : Client ω)
    (keccak256 : BitVec 256 → BitVec 256) (par : Parameters) (input : CycleReportInput) (now : Int)
    (x : ω) : Prop where
  own : par.registry = d.address
  mode : par.mode = .all
  positive : 1 ≤ par.pageSize
  word : par.pageSize < 2 ^ 256
  pinned : ∀ block y, client.getBlockNumber x = (.ok block, y) →
    Pinned client d.address block (chain.world y).store
  few : ∀ block y, client.getBlockNumber x = (.ok block, y) →
    (∀ e ∈ chain.entries y, Few e.before.store) ∧ Few (chain.world y).store
  spoken : ∀ e c, enumerate client par (.start par x) = (.error e, c) → message e ≠ ""
  sends : input.dryRun = par.dryRun
  result : input.result = (runKeeperCycle client keccak256 par x).1
  ok : (cycleReport platform input now).status = .ok

/-- While the chain went from `x` to `y`, the volume was brought to target. -/
def Attended (d : Deployment T P) (outside : World T P → World T P → Prop) (chain : Chain T P ω)
    (id : Bytes32) (x y : ω) : Prop :=
  ∃ more, chain.entries y = chain.entries x ++ more ∧
    Goes d outside (chain.world x) more (chain.world y) ∧ ∃ e ∈ more, Serviced d id e

variable {platform : Platform} {input : CycleReportInput} {now : Int}

/-- Such a cycle read its volumes. -/
theorem Quiet.read (quiet : Quiet platform d chain client keccak256 par input now x) :
    ∃ block ids c, enumerate client par (.start par x) = (.ok (block, ids), c) := by
  generalize read : enumerate client par (.start par x) = reply
  obtain ⟨answer, c⟩ := reply
  cases answer with
  | ok found => exact ⟨found.1, found.2, c, rfl⟩
  | error e =>
    have stopped : input.result.error = some (message e) := by
      rw [quiet.result]
      exact (unread_result keccak256 read).1
    have failed := (quiet_result quiet.ok).1
    have empty := (Verdict.failures_nonempty input.result).not.mp (not_not.mpr failed)
    exact absurd ((Verdict.truthy_error _).mpr ⟨by simp [stopped],
      by simp [stopped, quiet.spoken e c read]⟩) fun truthy => empty (.inl truthy)

/-- It brought every volume to target that was Active at the block it names. -/
theorem Quiet.attended (documented : d.Documented) (foreign : Foreign d) (deployed : Deployed d w₀)
    (serves : Serves d outside w₀ stray chain client)
    (quiet : Quiet platform d chain client keccak256 par input now x) :
    ∃ block y, client.getBlockNumber x = (.ok block, y) ∧
      Later d outside chain y (runKeeperCycle client keccak256 par x).2 ∧
      ∀ id, Active id (chain.world y) →
        Attended d outside chain id y (runKeeperCycle client keccak256 par x).2 := by
  obtain ⟨block, ids, c, read⟩ := quiet.read
  obtain ⟨y, views, asked, collected, same, first, begun, went⟩ := enumerate_all serves quiet.mode read
  obtain ⟨more, mined, grown, goes, listed, all⟩ := attempts_mined serves quiet.own read
  have entries : chain.entries (runKeeperCycle client keccak256 par x).2 =
      chain.entries y ++ (first ++ more) := by
    rw [grown, begun, List.append_assoc]
  have path := went.trans serves.moves goes
  refine ⟨block, y, asked, ⟨first ++ more, entries, path⟩, fun id active => ?_⟩
  -- the volume was read, hence attempted
  obtain ⟨w₁, run, idle, _⟩ := serves.run y
  obtain ⟨few, fewNow⟩ := quiet.few block y asked
  have rep : Represented (chain.world y).store := by
    rw [idle.store]
    exact (run_represented deployed run few).1
  have short : (chain.world y).store.activeVolumeIds.length < 2 ^ 32 := by
    rw [Few, ← rep.count] at fewNow
    exact fewNow
  rw [quiet.own, collectActiveVolumes_ok (quiet.pinned block y asked) short quiet.positive quiet.word] at collected
  have listedIds : ids = (chain.world y).store.activeVolumeIds := by
    rw [same, ← Except.ok.inj collected, List.map_map]
    exact List.map_id _
  have member : id ∈ ids := by
    rw [listedIds]
    exact (rep.listed id).mpr active
  obtain ⟨failed, warned, sent⟩ := quiet_result quiet.ok
  rw [quiet.result] at failed warned
  obtain ⟨v, attempted, rfl, funded⟩ :=
    quiet_all read (quiet.sends.symm.trans sent) failed warned id member
  obtain ⟨e, called, serviced⟩ :=
    cycle_serviced documented foreign deployed serves grown listed all attempted funded
  exact ⟨first ++ more, entries, path, e, List.mem_append_right _ called, serviced⟩

/-- The volume is Active on its batch as recorded, which is live and paid for up to the
target. -/
def AtTarget (d : Deployment T P) (id : Bytes32) (w : World T P) : Prop :=
  ∃ o, Live d w (w.store.volumes id).batchId o ∧
    Held d id (w.store.volumes id).batchId (target d w o) w ∧ Active id w

theorem Serviced.atTarget (documented : d.Documented) (credits : d.stamp.Credits)
    (records : d.stamp.Records) {e : Entry T P} (serviced : Serviced d id e) : AtTarget d id e.after := by
  obtain ⟨exactly, established⟩ := serviced.established
  obtain ⟨o, read, held, active⟩ :=
    established_held documented credits records serviced.executed established
  obtain ⟨o', live⟩ := visited_live documented serviced.executed serviced.call established
  obtain rfl := Option.some.inj (live.read.symm.trans read)
  exact ⟨o', live, held, active⟩

/-- A report that all is well is a promise kept: every volume that was Active at the block
the report names has been triggered since, by a call that left it at target. -/
theorem quiet_report_funds (documented : d.Documented) (foreign : Foreign d)
    (credits : d.stamp.Credits) (records : d.stamp.Records) (deployed : Deployed d w₀)
    (serves : Serves d outside w₀ stray chain client)
    (quiet : Quiet platform d chain client keccak256 par input now x) :
    ∃ block y more, client.getBlockNumber x = (.ok block, y) ∧
      chain.entries (runKeeperCycle client keccak256 par x).2 = chain.entries y ++ more ∧
      ∀ id, ((chain.world y).store.volumes id).status = .active →
        ∃ e ∈ more, e.call = .trigger id ∧ AtTarget d id e.after := by
  obtain ⟨block, y, asked, ⟨more, grown, _⟩, all⟩ := quiet.attended documented foreign deployed serves
  refine ⟨block, y, more, asked, grown, fun id active => ?_⟩
  obtain ⟨more', grown', _, e, member, serviced⟩ := all id active
  obtain rfl := List.append_cancel_left (grown.symm.trans grown')
  exact ⟨e, member, serviced.call, serviced.atTarget documented credits records⟩

/-! ## Between visits -/

variable {initial gap : Nat} {rate : Nat → Nat} {b : Bytes32} {w w' : World T P} {es : List (Entry T P)}

/-- The block the chain is at. -/
def height (chain : Chain T P ω) (x : ω) : Nat := (chain.world x).block.number

/-- The owner deleted the volume, or its TTL had passed at some call. -/
def Ended (chain : Chain T P ω) (id : Bytes32) (x y : ω) : Prop :=
  ∃ more, chain.entries y = chain.entries x ++ more ∧ ∃ e ∈ more, Ends id e

/-- Cycles whose reports say that all is well, from one at `x` up to `y`. Fewer than `gap`
blocks pass from the start of each to the end of the next, and from the last to `y`. -/
inductive QuietCycles (platform : Platform) (d : Deployment T P)
    (outside : World T P → World T P → Prop) (chain : Chain T P ω) (client : Client ω)
    (keccak256 : BitVec 256 → BitVec 256) (gap : Nat) (y : ω) : (x x' : ω) → Prop
  | last {x : ω} {par : Parameters} {input : CycleReportInput} {now : Int}
      (quiet : Quiet platform d chain client keccak256 par input now x)
      (later : Later d outside chain (runKeeperCycle client keccak256 par x).2 y)
      (soon : height chain y < height chain x + gap) :
      QuietCycles platform d outside chain client keccak256 gap y x
        (runKeeperCycle client keccak256 par x).2
  | next {x x₁ x₁' : ω} {par : Parameters} {input : CycleReportInput} {now : Int}
      (quiet : Quiet platform d chain client keccak256 par input now x)
      (later : Later d outside chain (runKeeperCycle client keccak256 par x).2 x₁)
      (soon : height chain x₁' < height chain x + gap)
      (rest : QuietCycles platform d outside chain client keccak256 gap y x₁ x₁') :
      QuietCycles platform d outside chain client keccak256 gap y x
        (runKeeperCycle client keccak256 par x).2

variable {z z' : ω}

theorem QuietCycles.quiet (cycles : QuietCycles platform d outside chain client keccak256 gap y z z') :
    ∃ par input now, Quiet platform d chain client keccak256 par input now z ∧
      z' = (runKeeperCycle client keccak256 par z).2 := by
  cases cycles with
  | last quiet => exact ⟨_, _, _, quiet, rfl⟩
  | next quiet => exact ⟨_, _, _, quiet, rfl⟩

theorem Ended.since (later : Later d outside chain x y) (ended : Ended chain id y z) :
    Ended chain id x z := by
  obtain ⟨more, grown, _⟩ := later
  obtain ⟨more', grown', e, member, ends⟩ := ended
  refine ⟨more ++ more', by rw [grown', grown, List.append_assoc], e, ?_, ends⟩
  exact List.mem_append_right _ member

theorem QuietCycles.later (serves : Serves d outside w₀ stray chain client)
    (cycles : QuietCycles platform d outside chain client keccak256 gap y z z') :
    Later d outside chain z' y := by
  induction cycles with
  | last quiet later => exact later
  | @next _ x₁ _ _ _ _ quiet later soon rest ih =>
    obtain ⟨par, input, now, first, same⟩ := rest.quiet
    obtain ⟨more, _, grown, goes, _⟩ := cycle_mined serves first.own keccak256 x₁
    have cycle : Later d outside chain x₁ (runKeeperCycle client keccak256 par x₁).2 :=
      ⟨more, grown, goes⟩
    rw [← same] at cycle
    exact serves.join later (serves.join cycle ih)

open Reference (Ledger Office)
open Sample (deployment enrolled first)

/-- The price stays at 3. -/
def steady : World Ledger Office → World Ledger Office → Prop :=
  course deployment Sample.batch 3 fun _ => 3

theorem steady_refl (w : World Ledger Office) : steady w w := .refl

def steadyNode : Client (Posted steady) := postNode steady_refl

theorem steady_serves :
    Serves deployment steady Sample.genesis (fun _ => none) (postedChain steady) steadyNode :=
  postNode_serves steady_refl fun _ _ _ => .trans

def cycleFrom (p : Posted steady) : CycleResult × Posted steady :=
  runKeeperCycle steadyNode (fun word => word) sampleParameters p

/-- The chain after one cycle. -/
def once : Posted steady := (cycleFrom (posted steady_refl)).2

def noUrls : Platform := ⟨fun _ => none, toString⟩

/-- What makes a cycle of the sample quiet. -/
theorem sample_quiet {p : Posted steady} (store : p.world.store = enrolled.store)
    (short : ∀ e ∈ p.entries, getActiveVolumeCount e.before.store < 2 ^ 32)
    (read : (enumerate steadyNode sampleParameters (.start sampleParameters p)).1.isOk = true)
    (ok : (cycleReport noUrls { Verdict.quietRun with result := (cycleFrom p).1 } 1).status = .ok) :
    Quiet noUrls deployment (postedChain steady) steadyNode (fun word => word) sampleParameters
      { Verdict.quietRun with result := (cycleFrom p).1 } 1 p where
  own := rfl
  mode := rfl
  positive := by decide
  word := by decide
  pinned block y asked := by
    cases asked
    change Pinned _ _ _ p.world.store
    rw [store]
    have reader : Pinned (Enumeration.reader enrolled.store) deployment.address 100 enrolled.store :=
      Enumeration.reader_pinned _ _
    exact ⟨fun _ => rfl, fun args _ => reader.pages args (), fun args _ => reader.unencodable args ()⟩
  few block y asked := by
    cases asked
    obtain ⟨w₁, run, idle, _⟩ := p.run
    have few := few_of_count Sample.deployed run short
    have one : getActiveVolumeCount enrolled.store = 1 := by decide
    refine ⟨few, ?_⟩
    change Few p.world.store
    rw [Few, idle.store, ← (run_represented Sample.deployed run few).1.count, ← idle.store, store, one]
    decide
  spoken e c failed := by
    rw [failed] at read
    cases read
  sends := rfl
  result := rfl
  ok := ok

theorem first_quiet : Quiet noUrls deployment (postedChain steady) steadyNode (fun word => word)
    sampleParameters { Verdict.quietRun with result := (cycleFrom (posted steady_refl)).1 } 1
    (posted steady_refl) :=
  sample_quiet rfl (by decide) rfl rfl

example : (cycleFrom (posted steady_refl)).1.toppedUp.map ToppedUp.volumeId = [first] ∧
    (cycleFrom once).1.noop = [first] := by decide

theorem quiet_report_funds_sample : ∃ block y more,
    steadyNode.getBlockNumber (posted steady_refl) = (.ok block, y) ∧
      once.entries = y.entries ++ more ∧
      ∀ id, (y.world.store.volumes id).status = .active →
        ∃ e ∈ more, e.call = .trigger id ∧ AtTarget deployment id e.after :=
  quiet_report_funds Sample.documented reference_foreign Reference.stamp_credits
    Reference.stamp_records Sample.deployed steady_serves first_quiet

end SwarmVolumes.Guarantees.KeeperUpkeep
