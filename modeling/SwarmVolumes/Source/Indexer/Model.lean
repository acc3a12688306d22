import SwarmVolumes.Library.NamedLogs
import Mathlib.Data.Prod.Lex
import Mathlib.Data.Rat.Defs

/-!
# Indexer records

`model.py` of the indexer. A timestamp is its UTC epoch seconds, and the date of
a UTC day its index (seconds over 86 400), of which the source keeps the
`YYYY-MM-DD` form. An amount of BZZ is the exact quotient that the source rounds
to a float.
-/
namespace SwarmVolumes.Source.Indexer
open Library

/-- The Python exceptions a fold may raise. -/
inductive PyError where
  | keyError | typeError | valueError | indexError
  deriving DecidableEq, Repr

/-- A value of `args`: an address, a hash or an enum name is a string, an amount
an integer. -/
inductive Value where
  | str (s : String)
  | int (n : Int)
  deriving DecidableEq, Repr

/-- `(chain_id, registry_address)`. -/
abbrev DeploymentId := Nat × String

/-- One decoded log, with numbers in `N`, a time in `T` and arguments in `A`. -/
structure LogRow (N T A : Type) where
  deploymentId : N × String
  blockNumber : N
  blockTs : T
  txHash : String
  txIndex : N
  logIndex : N
  emitter : String
  eventName : String
  args : A
  deriving DecidableEq, Repr

/-- A row as it is projected: a time is its epoch second, and an argument has one of two kinds. -/
abbrev EventLogRow := LogRow Nat Nat (Dict String Value)

def orRaise {α : Type} (e : PyError) : Option α → Except PyError α
  | some a => .ok a
  | none => .error e

/-- `row.args[key]`. -/
def LogRow.arg {N T : Type} (row : LogRow N T (Dict String Value)) (key : String) : Except PyError Value :=
  orRaise .keyError (row.args.get? key)

/-- An integer operand of `+`. -/
def Value.operand : Value → Except PyError Int
  | .int n => .ok n
  | .str _ => .error .typeError

section
variable {N T A : Type}

/-- `(block_number, log_index)`, a log's position in the chain. -/
def LogRow.position (row : LogRow N T A) : N × N := (row.blockNumber, row.logIndex)

variable [LinearOrder N]

/-- Tuples compare lexicographically. -/
def inOrder (a b : LogRow N T A) : Prop :=
  a.blockNumber < b.blockNumber ∨ a.blockNumber = b.blockNumber ∧ a.logIndex ≤ b.logIndex

instance : DecidableRel (inOrder (N := N) (T := T) (A := A)) := fun _ _ => inferInstanceAs (Decidable (_ ∨ _))

/-- `sorted(rows, key=lambda r: (r.block_number, r.log_index))`, which is stable. -/
def canonical (rows : List (LogRow N T A)) : List (LogRow N T A) := rows.insertionSort inOrder

/-- One log for each event type. -/
structure RowLog (N T A : Type) where
  byEvent : Dict String (List (LogRow N T A))

namespace RowLog

def fromRows (rows : List (LogRow N T A)) : RowLog N T A :=
  ⟨(Dict.group LogRow.eventName rows).map fun (name, rs) => (name, canonical rs)⟩

/-- The rows of the named events, merged into chain order. -/
def of (log : RowLog N T A) (eventNames : List String) : List (LogRow N T A) :=
  canonical (eventNames.flatMap fun name => (log.byEvent.get? name).getD [])

def merged (log : RowLog N T A) : List (LogRow N T A) := log.of log.byEvent.keys

def forDeployment (log : RowLog N T A) (deploymentId : N × String) : RowLog N T A :=
  ⟨log.byEvent.map fun (name, rs) => (name, rs.filter fun r => r.deploymentId = deploymentId)⟩

end RowLog
end

abbrev EventLog := RowLog Nat Nat (Dict String Value)

structure Deployment where
  label : String
  chainId : Nat
  registry : String
  registryVersion : String
  genesisTs : Nat
  fiatCurrencies : List String
  extra : Dict String Value

def Deployment.deploymentId (d : Deployment) : DeploymentId := (d.chainId, d.registry)

structure AsOf where
  block : Nat
  ts : Nat
  deriving DecidableEq

structure DailyFee where
  date : Nat
  bzz : Rat
  deriving DecidableEq

structure DailyCapacity where
  date : Nat
  activeVolumes : Nat
  nominalBytes : Int
  effectiveBytes : Int
  deriving DecidableEq

structure DailyAccounts where
  date : Nat
  authorized : Nat
  deriving DecidableEq

structure DailyPrice where
  date : Nat
  bzzFiat : Dict String Rat
  deriving DecidableEq

structure Capacity where
  activeVolumes : Nat
  nominalBytes : Int
  effectiveBytes : Int
  deriving DecidableEq

structure AccountsSnapshot where
  authorized : Nat
  paidInWindow : Dict String Nat
  deriving DecidableEq

structure Snapshot where
  feeVolumeTotalBzz : Rat
  capacity : Capacity
  accounts : AccountsSnapshot
  deriving DecidableEq

/-- One deployment's entry in the published artifact. -/
structure ArtifactEntry where
  label : String
  chainId : Nat
  registry : String
  registryVersion : String
  genesisTs : Nat
  asOf : AsOf
  fiatCurrencies : List String
  extra : Dict String Value
  snapshot : Snapshot
  feeVolumeDaily : List DailyFee
  capacityDaily : List DailyCapacity
  accountsDaily : List DailyAccounts
  priceDaily : List DailyPrice
  deriving DecidableEq

/-! ## Reading a log back -/

variable {N T A : Type} [LinearOrder N]

/-- Chain order is that of the positions. -/
theorem inOrder_iff {a b : LogRow N T A} : inOrder a b ↔ toLex a.position ≤ toLex b.position := by
  rw [Prod.Lex.toLex_le_toLex]
  rfl

instance : Std.Total (inOrder (N := N) (T := T) (A := A)) where
  total a b := by
    rw [inOrder_iff, inOrder_iff]
    exact le_total _ _

instance : IsTrans (LogRow N T A) inOrder where
  trans a b c := by
    rw [inOrder_iff, inOrder_iff, inOrder_iff]
    exact le_trans

theorem inOrder_antisymm {a b : LogRow N T A} (first : inOrder a b) (second : inOrder b a) :
    a.position = b.position :=
  toLex.injective (le_antisymm (inOrder_iff.mp first) (inOrder_iff.mp second))

/-- Position identifies the rows of a list. -/
def Positioned (rows : List (LogRow N T A)) : Prop :=
  ∀ a ∈ rows, ∀ b ∈ rows, a.position = b.position → a = b

/-- Strictly before in the chain. -/
def Precedes (a b : LogRow N T A) : Prop :=
  a.blockNumber < b.blockNumber ∨ a.blockNumber = b.blockNumber ∧ a.logIndex < b.logIndex

theorem Precedes.inOrder {a b : LogRow N T A} (first : Precedes a b) : inOrder a b :=
  first.imp id fun same => ⟨same.1, same.2.le⟩

/-- The strict order is the order one way only. -/
theorem precedes_iff {a b : LogRow N T A} : Precedes a b ↔ inOrder a b ∧ ¬ inOrder b a := by
  rw [inOrder_iff, inOrder_iff, ← lt_iff_le_not_ge, Prod.Lex.toLex_lt_toLex]
  rfl

theorem Precedes.apart {a b : LogRow N T A} (first : Precedes a b) : a.position ≠ b.position := by
  intro same
  have second := (precedes_iff.mp first).2
  rw [inOrder_iff, same] at second
  exact second le_rfl

theorem positioned_of_pairwise {rows : List (LogRow N T A)} (ordered : rows.Pairwise Precedes) :
    Positioned rows := by
  have apart : rows.Pairwise fun a b => a.position = b.position → a = b :=
    ordered.imp fun precedes same => absurd same precedes.apart
  have apart' : rows.Pairwise fun a b => b.position = a.position → b = a :=
    ordered.imp fun precedes same => absurd same.symm precedes.apart
  intro a first b second
  exact List.Pairwise.forall_of_forall_of_flip (fun _ _ _ => rfl) apart apart' first second

theorem canonical_perm (rows : List (LogRow N T A)) : (canonical rows).Perm rows :=
  List.perm_insertionSort ..

theorem Positioned.apart {rows : List (LogRow N T A)} (positioned : Positioned rows) :
    NamedLogs.Apart inOrder rows :=
  fun a first b second below above => positioned a first b second (inOrder_antisymm below above)

/-- Chain order leaves no choice where positions identify rows. -/
theorem canonical_congr {rows rows' : List (LogRow N T A)} (positioned : Positioned rows)
    (same : rows.Perm rows') : canonical rows = canonical rows' :=
  NamedLogs.sort_congr positioned.apart same

/-- A list already in order is its own canonical form. -/
theorem canonical_of_pairwise {rows : List (LogRow N T A)} (ordered : rows.Pairwise inOrder) :
    canonical rows = rows :=
  List.Pairwise.insertionSort_eq ordered

theorem fromRows_get (rows : List (LogRow N T A)) (name : String) :
    (((RowLog.fromRows rows).byEvent.get? name).getD []).Perm
      (rows.filter fun r => r.eventName = name) :=
  NamedLogs.log_perm rows name

/-- Merging every log gives the rows back. -/
theorem merged_perm (rows : List (LogRow N T A)) : (RowLog.fromRows rows).merged.Perm rows :=
  NamedLogs.merged_perm rows

/-- What `of` merges: the rows with one of the names. -/
theorem of_perm (rows : List (LogRow N T A)) (deploymentId : N × String) {names : List String}
    (distinct : names.Nodup) :
    (names.flatMap fun name => ((((RowLog.fromRows rows).forDeployment deploymentId).byEvent.get?
      name).getD [])).Perm
      (rows.filter fun r => r.deploymentId = deploymentId ∧ r.eventName ∈ names) := by
  have filed : ∀ name, ((((RowLog.fromRows rows).forDeployment deploymentId).byEvent.get?
      name).getD []).Perm ((rows.filter fun r => r.deploymentId = deploymentId).filter
        fun r => r.eventName = name) := by
    intro name
    change ((Dict.get? ((RowLog.fromRows rows).byEvent.map fun entry =>
      (entry.1, entry.2.filter fun r => r.deploymentId = deploymentId)) name).getD []).Perm _
    have named := (fromRows_get rows name).filter fun r => r.deploymentId = deploymentId
    rw [List.filter_comm] at named
    rw [Dict.get?_map]
    refine .trans ?_ named
    cases (RowLog.fromRows rows).byEvent.get? name with
    | none => exact .refl _
    | some rs => exact .refl _
  refine (Dict.flatMap_perm LogRow.eventName distinct filed).trans ?_
  rw [List.filter_filter]
  refine .of_eq (List.filter_congr fun r _ => ?_)
  simp [Bool.and_comm]

/-- The spec of `of`: those rows, sorted. -/
theorem of_eq {rows : List (LogRow N T A)} {deploymentId : N × String} {names : List String}
    (distinct : names.Nodup)
    (positioned : Positioned (rows.filter fun r => r.deploymentId = deploymentId)) :
    ((RowLog.fromRows rows).forDeployment deploymentId).of names =
      canonical (rows.filter fun r => r.deploymentId = deploymentId ∧ r.eventName ∈ names) := by
  have merged := of_perm rows deploymentId distinct
  have within : ∀ r ∈ names.flatMap fun name => ((((RowLog.fromRows rows).forDeployment
      deploymentId).byEvent.get? name).getD []), r ∈ rows.filter fun r => r.deploymentId = deploymentId := by
    intro r listed
    obtain ⟨member, own⟩ := List.mem_filter.mp (merged.mem_iff.mp listed)
    exact List.mem_filter.mpr ⟨member, by simpa using (of_decide_eq_true own).1⟩
  exact canonical_congr (fun a first b second => positioned a (within a first) b (within b second)) merged

/-- A log does not depend on the order its rows are stored in. -/
theorem of_congr {rows rows' : List (LogRow N T A)} {deploymentId : N × String} {names : List String}
    (distinct : names.Nodup) (positioned : Positioned rows) (same : rows.Perm rows') :
    ((RowLog.fromRows rows).forDeployment deploymentId).of names =
      ((RowLog.fromRows rows').forDeployment deploymentId).of names := by
  have within : ∀ {p : LogRow N T A → Bool}, Positioned (rows.filter p) := fun a first b second =>
    positioned a (List.mem_of_mem_filter first) b (List.mem_of_mem_filter second)
  rw [of_eq distinct within, of_eq distinct fun a first b second =>
    within a ((same.filter _).mem_iff.mpr first) b ((same.filter _).mem_iff.mpr second)]
  exact canonical_congr within (same.filter _)

/-- Rows of one deployment in chain order, stored in any order, are read back so. -/
theorem of_eq_filter {rows ordered : List (LogRow N T A)} {deploymentId : N × String}
    {names : List String} (distinct : names.Nodup) (stored : rows.Perm ordered)
    (own : ∀ r ∈ ordered, r.deploymentId = deploymentId) (chain : ordered.Pairwise Precedes) :
    ((RowLog.fromRows rows).forDeployment deploymentId).of names =
      ordered.filter fun r => r.eventName ∈ names := by
  have positioned : Positioned rows := fun a first b second =>
    positioned_of_pairwise chain a (stored.mem_iff.mp first) b (stored.mem_iff.mp second)
  have kept : ∀ l : List (LogRow N T A), (∀ r ∈ l, r.deploymentId = deploymentId) →
      (l.filter fun r => r.deploymentId = deploymentId ∧ r.eventName ∈ names) =
        l.filter fun r => r.eventName ∈ names :=
    fun l all => List.filter_congr fun r member => by simp [all r member]
  rw [of_eq distinct fun a first b second =>
      positioned a (List.mem_of_mem_filter first) b (List.mem_of_mem_filter second),
    kept rows fun r member => own r (stored.mem_iff.mp member)]
  rw [canonical_congr (fun a first b second =>
      positioned a (List.mem_of_mem_filter first) b (List.mem_of_mem_filter second))
    (stored.filter _)]
  exact canonical_of_pairwise ((chain.filter _).imp fun precedes => precedes.inOrder)

end SwarmVolumes.Source.Indexer
