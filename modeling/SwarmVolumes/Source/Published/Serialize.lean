import SwarmVolumes.Library.Calendar
import SwarmVolumes.Source.Fields
import Mathlib.Data.String.Basic

/-!
# The published artifact as text

`serialize.py`, with the artifact of `model.py` as it is published: timestamps are
UTC `datetime`s, dates and addresses are strings, an amount of BZZ is a number of
either kind. The maps of an entry keep what JSON keeps. A field whose type is not the
declared one, which the source keeps as it is, raises.
-/
namespace SwarmVolumes.Source.Published
open Library
open Indexer (PyError orRaise)
open Fields

abbrev DateTime := Calendar.DateTime

/-- An `int` or a finite `float`. -/
inductive Number (F : Type) where
  | int (n : Int)
  | float (x : F)

structure AsOf where
  block : Int
  ts : DateTime

structure DailyFee (F : Type) where
  date : String
  bzz : Number F

structure DailyCapacity where
  date : String
  activeVolumes : Int
  nominalBytes : Int
  effectiveBytes : Int

structure DailyAccounts where
  date : String
  authorized : Int

structure DailyPrice (F : Type) where
  date : String
  bzzFiat : Map (Document F)

structure Capacity where
  activeVolumes : Int
  nominalBytes : Int
  effectiveBytes : Int

structure AccountsSnapshot (F : Type) where
  authorized : Int
  paidInWindow : Map (Document F)

structure Snapshot (F : Type) where
  feeVolumeTotalBzz : Number F
  capacity : Capacity
  accounts : AccountsSnapshot F

/-- One deployment's entry. -/
structure ArtifactEntry (F : Type) where
  label : String
  chainId : Int
  registry : String
  registryVersion : String
  genesisTs : DateTime
  asOf : AsOf
  fiatCurrencies : List String
  extra : Map (Document F)
  snapshot : Snapshot F
  feeVolumeDaily : List (DailyFee F)
  capacityDaily : List DailyCapacity
  accountsDaily : List DailyAccounts
  priceDaily : List (DailyPrice F)

/-- The published file. -/
structure Artifact (F : Type) where
  schemaVersion : String
  generatedAt : DateTime
  deployments : List (ArtifactEntry F)
  latest : Map String

/-- `SCHEMA_VERSION`. -/
def schemaVersion : String := "1.0"

variable {F : Type}

/-! ## Encode -/

/-- `_iso`. -/
def iso (dt : DateTime) : List Char := dt.strftime ['Z']

def Number.toDocument : Number F → Document F
  | .int n => .int n
  | .float x => .float x

def asOfToDict (asOf : AsOf) : Document F := object
  [("block", .int asOf.block), ("ts", .str (iso asOf.ts))]

def capacityToDict (capacity : Capacity) : Document F := object
  [("active_volumes", .int capacity.activeVolumes),
   ("nominal_bytes", .int capacity.nominalBytes),
   ("effective_bytes", .int capacity.effectiveBytes)]

def accountsToDict (accounts : AccountsSnapshot F) : Document F := object
  [("authorized", .int accounts.authorized), ("paid_in_window", object accounts.paidInWindow.val)]

def snapshotToDict (snapshot : Snapshot F) : Document F := object
  [("fee_volume_total_bzz", snapshot.feeVolumeTotalBzz.toDocument),
   ("capacity", capacityToDict snapshot.capacity),
   ("accounts", accountsToDict snapshot.accounts)]

def dailyFeeToDict (d : DailyFee F) : Document F := object
  [("date", text d.date), ("bzz", d.bzz.toDocument)]

def dailyCapacityToDict (d : DailyCapacity) : Document F := object
  [("date", text d.date), ("active_volumes", .int d.activeVolumes),
   ("nominal_bytes", .int d.nominalBytes), ("effective_bytes", .int d.effectiveBytes)]

def dailyAccountsToDict (d : DailyAccounts) : Document F := object
  [("date", text d.date), ("authorized", .int d.authorized)]

def dailyPriceToDict (d : DailyPrice F) : Document F := object
  [("date", text d.date), ("bzz_fiat", object d.bzzFiat.val)]

def entryToDict (entry : ArtifactEntry F) : Document F := object
  [("label", text entry.label),
   ("chain_id", .int entry.chainId),
   ("registry", text entry.registry),
   ("registry_version", text entry.registryVersion),
   ("genesis_ts", .str (iso entry.genesisTs)),
   ("as_of", asOfToDict entry.asOf),
   ("fiat_currencies", .arr (entry.fiatCurrencies.map text)),
   ("extra", object entry.extra.val),
   ("snapshot", snapshotToDict entry.snapshot),
   ("fee_volume_daily", .arr (entry.feeVolumeDaily.map dailyFeeToDict)),
   ("capacity_daily", .arr (entry.capacityDaily.map dailyCapacityToDict)),
   ("accounts_daily", .arr (entry.accountsDaily.map dailyAccountsToDict)),
   ("price_daily", .arr (entry.priceDaily.map dailyPriceToDict))]

/-- Pairs of strings compare lexicographically. -/
def inOrder (a b : String × String) : Prop := a.1 < b.1 ∨ a.1 = b.1 ∧ a.2 ≤ b.2

instance : DecidableRel inOrder := fun _ _ => inferInstanceAs (Decidable (_ ∨ _))

/-- `sorted(d.items())`. -/
def sortedItems (d : Dict String String) : Dict String String := d.insertionSort inOrder

def artifactToDict (artifact : Artifact F) : Document F := object
  [("schema_version", text artifact.schemaVersion),
   ("generated_at", .str (iso artifact.generatedAt)),
   ("latest", object ((sortedItems artifact.latest.val).map fun entry => (entry.1, text entry.2))),
   ("deployments", .arr (artifact.deployments.map entryToDict))]

/-- `artifact_to_json`, with its default indent. -/
def artifactToJson (floats : Floats F) (artifact : Artifact F) : List Char :=
  Document.dumps floats (artifactToDict artifact)

/-! ## Decode -/

/-- `s.replace("Z", "+00:00")`. -/
def replaceZ (s : List Char) : List Char :=
  s.flatMap fun c => if c = 'Z' then Calendar.DateTime.utc else [c]

/-- `_parse_iso`. -/
def parseIso (s : List Char) : Option DateTime := Calendar.DateTime.fromisoformat (replaceZ s)

def asNumber : Document F → Except PyError (Number F)
  | .int n => .ok (.int n)
  | .float x => .ok (.float x)
  | _ => .error .typeError

def asTime : Document F → Except PyError DateTime := asTimeBy parseIso

def asOfFromDict (obj : Document F) : Except PyError AsOf := do
  let block ← item obj "block" >>= asInt
  let ts ← item obj "ts" >>= asTime
  .ok { block, ts }

def capacityFromDict (obj : Document F) : Except PyError Capacity := do
  let activeVolumes ← item obj "active_volumes" >>= asInt
  let nominalBytes ← item obj "nominal_bytes" >>= asInt
  let effectiveBytes ← item obj "effective_bytes" >>= asInt
  .ok { activeVolumes, nominalBytes, effectiveBytes }

def accountsFromDict (obj : Document F) : Except PyError (AccountsSnapshot F) := do
  let authorized ← item obj "authorized" >>= asInt
  let paidInWindow ← item obj "paid_in_window" >>= asDict
  .ok { authorized, paidInWindow }

def snapshotFromDict (snap : Document F) : Except PyError (Snapshot F) := do
  let feeVolumeTotalBzz ← item snap "fee_volume_total_bzz" >>= asNumber
  let capacity ← item snap "capacity" >>= capacityFromDict
  let accounts ← item snap "accounts" >>= accountsFromDict
  .ok { feeVolumeTotalBzz, capacity, accounts }

def dailyFeeFromDict (d : Document F) : Except PyError (DailyFee F) := do
  let date ← item d "date" >>= asText
  let bzz ← item d "bzz" >>= asNumber
  .ok { date, bzz }

def dailyCapacityFromDict (d : Document F) : Except PyError DailyCapacity := do
  let date ← item d "date" >>= asText
  let activeVolumes ← item d "active_volumes" >>= asInt
  let nominalBytes ← item d "nominal_bytes" >>= asInt
  let effectiveBytes ← item d "effective_bytes" >>= asInt
  .ok { date, activeVolumes, nominalBytes, effectiveBytes }

def dailyAccountsFromDict (d : Document F) : Except PyError DailyAccounts := do
  let date ← item d "date" >>= asText
  let authorized ← item d "authorized" >>= asInt
  .ok { date, authorized }

def dailyPriceFromDict (d : Document F) : Except PyError (DailyPrice F) := do
  let date ← item d "date" >>= asText
  let bzzFiat ← item d "bzz_fiat" >>= asDict
  .ok { date, bzzFiat }

def entryFromDict (obj : Document F) : Except PyError (ArtifactEntry F) := do
  let snap ← item obj "snapshot"
  let label ← item obj "label" >>= asText
  let chainId ← item obj "chain_id" >>= asInt
  let registry ← item obj "registry" >>= asText
  let registryVersion ← item obj "registry_version" >>= asText
  let genesisTs ← item obj "genesis_ts" >>= asTime
  let asOf ← item obj "as_of" >>= asOfFromDict
  let fiatCurrencies ← item obj "fiat_currencies" >>= asList >>= List.mapM asText
  let extra ← item obj "extra" >>= asDict
  let snapshot ← snapshotFromDict snap
  let feeVolumeDaily ← item obj "fee_volume_daily" >>= asList >>= List.mapM dailyFeeFromDict
  let capacityDaily ← item obj "capacity_daily" >>= asList >>= List.mapM dailyCapacityFromDict
  let accountsDaily ← item obj "accounts_daily" >>= asList >>= List.mapM dailyAccountsFromDict
  let priceDaily ← item obj "price_daily" >>= asList >>= List.mapM dailyPriceFromDict
  .ok
    { label, chainId, registry, registryVersion, genesisTs, asOf, fiatCurrencies, extra, snapshot
      feeVolumeDaily, capacityDaily, accountsDaily, priceDaily }

def artifactFromDict (obj : Document F) : Except PyError (Artifact F) := do
  let schemaVersion ← item obj "schema_version" >>= asText
  let generatedAt ← item obj "generated_at" >>= asTime
  let deployments ← item obj "deployments" >>= asList >>= List.mapM entryFromDict
  let latest ← textMap obj "latest"
  .ok { schemaVersion, generatedAt, deployments, latest }

/-- `artifact_from_json`. -/
def artifactFromJson (floats : Floats F) (text : List Char) : Except PyError (Artifact F) :=
  orRaise .valueError (Document.loads floats text) >>= artifactFromDict

/-! ## Reading back -/

theorem replaceZ_digits {ds : List Char} (digits : ∀ c ∈ ds, c.isDigit = true) (rest : List Char) :
    replaceZ (ds ++ rest) = ds ++ replaceZ rest := by
  induction ds with
  | nil => rfl
  | cons c ds ih =>
    have other : c ≠ 'Z' := Json.ne_of_digit (digits c (List.mem_cons_self ..)) rfl
    have tail := ih fun d member => digits d (List.mem_cons_of_mem _ member)
    rw [List.cons_append, replaceZ, List.flatMap_cons, if_neg other, ← replaceZ, tail]
    rfl

theorem parseIso_iso (dt : DateTime) : parseIso (iso dt) = some dt.wholeSecond := by
  have dash : ∀ rest, replaceZ ('-' :: rest) = '-' :: replaceZ rest := fun _ => rfl
  have letter : ∀ rest, replaceZ ('T' :: rest) = 'T' :: replaceZ rest := fun _ => rfl
  have colon : ∀ rest, replaceZ (':' :: rest) = ':' :: replaceZ rest := fun _ => rfl
  have zone : replaceZ ['Z'] = Calendar.DateTime.utc := rfl
  have replaced : replaceZ (iso dt) = dt.strftime Calendar.DateTime.utc := by
    simp only [iso, Calendar.DateTime.strftime, replaceZ_digits (Calendar.digits_two _),
      replaceZ_digits (Calendar.digits_four _), dash, letter, colon, zone]
  rw [parseIso, replaced, Calendar.DateTime.fromisoformat_strftime]

@[simp] theorem asNumber_toDocument (n : Number F) : asNumber n.toDocument = .ok n := by
  cases n <;> rfl

@[simp] theorem asTime_iso (dt : DateTime) : asTime (.str (iso dt) : Document F) = .ok dt.wholeSecond := by
  rw [asTime, asTimeBy_str, parseIso_iso]
  rfl

/-- Without the microseconds of its timestamp. -/
def AsOf.wholeSecond (asOf : AsOf) : AsOf := { asOf with ts := asOf.ts.wholeSecond }

theorem asOf_read (asOf : AsOf) : asOfFromDict (asOfToDict asOf : Document F) = .ok asOf.wholeSecond := by
  have distinct : ["block", "ts"].Nodup := by decide
  unfold asOfFromDict asOfToDict
  rw [read_item distinct rfl rfl (asInt_int _), ok_bind, read_item distinct rfl rfl (asTime_iso _), ok_bind]
  rfl

theorem capacity_read (capacity : Capacity) :
    capacityFromDict (capacityToDict capacity : Document F) = .ok capacity := by
  have distinct : ["active_volumes", "nominal_bytes", "effective_bytes"].Nodup := by decide
  unfold capacityFromDict capacityToDict
  rw [read_item distinct rfl rfl (asInt_int _), ok_bind, read_item distinct rfl rfl (asInt_int _), ok_bind,
    read_item distinct rfl rfl (asInt_int _), ok_bind]

theorem accounts_read (accounts : AccountsSnapshot F) :
    accountsFromDict (accountsToDict accounts) = .ok accounts := by
  have distinct : ["authorized", "paid_in_window"].Nodup := by decide
  unfold accountsFromDict accountsToDict
  rw [read_item distinct rfl rfl (asInt_int _), ok_bind, read_item distinct rfl rfl (asDict_object _), ok_bind]

theorem snapshot_read (snapshot : Snapshot F) :
    snapshotFromDict (snapshotToDict snapshot) = .ok snapshot := by
  have distinct : ["fee_volume_total_bzz", "capacity", "accounts"].Nodup := by decide
  unfold snapshotFromDict snapshotToDict
  rw [read_item distinct rfl rfl (asNumber_toDocument _), ok_bind,
    read_item distinct rfl rfl (capacity_read _), ok_bind, read_item distinct rfl rfl (accounts_read _), ok_bind]

theorem dailyFee_read (d : DailyFee F) : dailyFeeFromDict (dailyFeeToDict d) = .ok d := by
  have distinct : ["date", "bzz"].Nodup := by decide
  unfold dailyFeeFromDict dailyFeeToDict
  rw [read_item distinct rfl rfl (asText_text _), ok_bind, read_item distinct rfl rfl (asNumber_toDocument _),
    ok_bind]

theorem dailyCapacity_read (d : DailyCapacity) :
    dailyCapacityFromDict (dailyCapacityToDict d : Document F) = .ok d := by
  have distinct : ["date", "active_volumes", "nominal_bytes", "effective_bytes"].Nodup := by decide
  unfold dailyCapacityFromDict dailyCapacityToDict
  rw [read_item distinct rfl rfl (asText_text _), ok_bind, read_item distinct rfl rfl (asInt_int _), ok_bind,
    read_item distinct rfl rfl (asInt_int _), ok_bind, read_item distinct rfl rfl (asInt_int _), ok_bind]

theorem dailyAccounts_read (d : DailyAccounts) :
    dailyAccountsFromDict (dailyAccountsToDict d : Document F) = .ok d := by
  have distinct : ["date", "authorized"].Nodup := by decide
  unfold dailyAccountsFromDict dailyAccountsToDict
  rw [read_item distinct rfl rfl (asText_text _), ok_bind, read_item distinct rfl rfl (asInt_int _), ok_bind]

theorem dailyPrice_read (d : DailyPrice F) : dailyPriceFromDict (dailyPriceToDict d) = .ok d := by
  have distinct : ["date", "bzz_fiat"].Nodup := by decide
  unfold dailyPriceFromDict dailyPriceToDict
  rw [read_item distinct rfl rfl (asText_text _), ok_bind, read_item distinct rfl rfl (asDict_object _), ok_bind]

def ArtifactEntry.wholeSecond (entry : ArtifactEntry F) : ArtifactEntry F :=
  { entry with genesisTs := entry.genesisTs.wholeSecond, asOf := entry.asOf.wholeSecond }

theorem entry_read (entry : ArtifactEntry F) :
    entryFromDict (entryToDict entry) = .ok entry.wholeSecond := by
  have distinct : ["label", "chain_id", "registry", "registry_version", "genesis_ts", "as_of",
      "fiat_currencies", "extra", "snapshot", "fee_volume_daily", "capacity_daily", "accounts_daily",
      "price_daily"].Nodup := by decide
  have same : ∀ {α : Type} (as : List α), as.map (fun a => a) = as := fun as => List.map_id' as
  unfold entryFromDict entryToDict
  rw [item_object distinct rfl rfl, ok_bind, read_item distinct rfl rfl (asText_text _), ok_bind,
    read_item distinct rfl rfl (asInt_int _), ok_bind, read_item distinct rfl rfl (asText_text _), ok_bind,
    read_item distinct rfl rfl (asText_text _), ok_bind, read_item distinct rfl rfl (asTime_iso _), ok_bind,
    read_item distinct rfl rfl (asOf_read _), ok_bind, read_list distinct rfl rfl asText_text, ok_bind,
    read_item distinct rfl rfl (asDict_object _), ok_bind, snapshot_read, ok_bind,
    read_list distinct rfl rfl dailyFee_read, ok_bind, read_list distinct rfl rfl dailyCapacity_read, ok_bind,
    read_list distinct rfl rfl dailyAccounts_read, ok_bind, read_list distinct rfl rfl dailyPrice_read, ok_bind]
  simp only [same]
  rfl

theorem inOrder_total (a b : String × String) : inOrder a b ∨ inOrder b a := by
  unfold inOrder
  rcases lt_trichotomy a.1 b.1 with less | same | more
  · exact .inl (.inl less)
  · exact (le_total a.2 b.2).imp (fun below => .inr ⟨same, below⟩) fun above => .inr ⟨same.symm, above⟩
  · exact .inr (.inl more)

theorem inOrder_trans {a b c : String × String} (first : inOrder a b) (second : inOrder b c) :
    inOrder a c := by
  unfold inOrder at *
  rcases first with less | ⟨same, below⟩
  · exact .inl (second.elim (less.trans ·) fun same' => same'.1 ▸ less)
  · rw [same]
    exact second.imp id fun same' => ⟨same'.1, below.trans same'.2⟩

instance : Std.Total inOrder := ⟨inOrder_total⟩
instance : IsTrans (String × String) inOrder := ⟨fun _ _ _ => inOrder_trans⟩

theorem sortedItems_perm (d : Dict String String) : (sortedItems d).Perm d := List.perm_insertionSort ..

theorem sortedItems_sortedItems (d : Dict String String) : sortedItems (sortedItems d) = sortedItems d :=
  List.Pairwise.insertionSort_eq (List.pairwise_insertionSort ..)

/-- A map in the order it is written. -/
def sortedMap (d : Map String) : Map String :=
  ⟨sortedItems d.val, ((sortedItems_perm d.val).map Prod.fst).nodup_iff.mpr d.property⟩

theorem textMap_read {d : Dict String (Document F)} {keys : List String} {key : String} (m : Map String)
    (distinct : keys.Nodup) (keyed : d.keys = keys)
    (found : d.get? key = some (object (m.val.map fun entry => (entry.1, text entry.2)))) :
    textMap (object d) key = .ok m := by
  have names : Dict.keys (m.val.map fun entry => (entry.1, (text entry.2 : Document F))) = m.val.keys := by
    rw [Dict.keys, List.map_map]
    rfl
  have dict := asDict_object (⟨d, keyed ▸ distinct⟩ : Map (Document F))
  have inner := asDict_object
    (⟨m.val.map fun entry => (entry.1, text entry.2), names ▸ m.property⟩ : Map (Document F))
  have entries : (m.val.map fun entry => (entry.1, (text entry.2 : Document F))).mapM
      (fun entry => (do
        let value ← asText entry.2
        .ok (entry.1, value) : Except PyError (String × String))) = .ok m.val := by
    rw [List.mapM_map, mapM_ok (g := id) fun entry _ => ?_, List.map_id]
    change (asText (text entry.2 : Document F) >>= fun value => Except.ok (entry.1, value)) = .ok entry
    rw [asText_text]
    rfl
  rw [textMap, dict, ok_bind, found]
  dsimp only
  rw [inner, ok_bind, entries, ok_bind, ofFields_self]

/-- What the text of an artifact keeps. -/
def Artifact.written (artifact : Artifact F) : Artifact F :=
  { schemaVersion := artifact.schemaVersion
    generatedAt := artifact.generatedAt.wholeSecond
    deployments := artifact.deployments.map ArtifactEntry.wholeSecond
    latest := sortedMap artifact.latest }

theorem artifact_read (artifact : Artifact F) :
    artifactFromDict (artifactToDict artifact) = .ok artifact.written := by
  have distinct : ["schema_version", "generated_at", "latest", "deployments"].Nodup := by decide
  unfold artifactFromDict artifactToDict
  rw [read_item distinct rfl rfl (asText_text _), ok_bind, read_item distinct rfl rfl (asTime_iso _),
    ok_bind, read_list distinct rfl rfl entry_read, ok_bind,
    textMap_read (sortedMap artifact.latest) distinct rfl rfl, ok_bind]
  rfl

/-- Reading what was written, with white space after it. -/
theorem artifactFromJson_artifactToJson {floats : Floats F} (documented : floats.Documented)
    (artifact : Artifact F) {after : List Char} (blank : ∀ c ∈ after, Json.isSpace c = true) :
    artifactFromJson floats (artifactToJson floats artifact ++ after) = .ok artifact.written := by
  rw [artifactFromJson, artifactToJson, Document.loads_dumps documented _ blank, orRaise, ok_bind,
    artifact_read]

/-- What is kept is written the same. -/
theorem artifactToDict_written (artifact : Artifact F) :
    artifactToDict artifact.written = artifactToDict artifact := by
  have entries : (artifact.deployments.map ArtifactEntry.wholeSecond).map entryToDict =
      artifact.deployments.map entryToDict := by
    rw [List.map_map]
    exact List.map_congr_left fun _ _ => rfl
  have latest : sortedItems (sortedMap artifact.latest).val = sortedItems artifact.latest.val :=
    sortedItems_sortedItems _
  rw [artifactToDict, artifactToDict, Artifact.written]
  dsimp only
  rw [entries, latest]
  rfl

end SwarmVolumes.Source.Published
