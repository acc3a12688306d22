import SwarmVolumes.Library.Calendar
import SwarmVolumes.Library.Fallible
import SwarmVolumes.Library.Paging
import SwarmVolumes.Library.PyNumber
import SwarmVolumes.Source.Indexer.Project
import Mathlib.Algebra.BigOperators.Group.List.Defs

/-!
# The read path

`prices.py`, `fiat.py` and `resolve_view` of `view.py`: from an entry to the summary
a client shows. A rate and an amount in fiat are the exact numbers the source has as
floats, and dates compare as their texts do.
-/
namespace SwarmVolumes.Source.Indexer
open Library

/-! ## Prices -/

/-- `LLAMA_CHAIN`. -/
def llamaChain : Dict Nat String := [(1, "ethereum"), (100, "gnosis")]

/-- A quote of the price chart. -/
structure Quote where
  timestamp : Nat
  price : Rat

/-- `doc["coins"][coin]["prices"]` of the document at a URL, `none` on any error. -/
abbrev PriceApi := String → String → Option (List Quote)

/-- `by_day`: the last quote of each day. -/
def quotesByDay (points : List Quote) : Dict Nat Rat :=
  points.foldl (fun byDay point => byDay.set (point.timestamp / oneDay) point.price) []

/-- `sorted(by_day.items())`, whose keys differ. -/
def sortedByDay (byDay : Dict Nat Rat) : Dict Nat Rat := byDay.insertionSort fun a b => a.1 ≤ b.1

def fetchPriceDaily (api : PriceApi) (chainId : Nat) (tokenAddress : String) (start end_ : Nat) :
    List DailyPrice :=
  match llamaChain.get? chainId with
  | none => []
  | some slug =>
    let span : Int := max 1 (((end_ : Int) - start) / oneDay + 2)
    let coin := slug ++ ":" ++ tokenAddress
    let url := "https://coins.llama.fi/chart/" ++ coin ++ "?start=" ++ toString start ++ "&span=" ++
      toString span ++ "&period=1d&searchWidth=12h"
    match api url coin with
    | none => []
    | some points => (sortedByDay (quotesByDay points)).map fun (date, price) => ⟨date, [("USD", price)]⟩

/-! ## Fiat -/

/-- `rate_by_date`. -/
def rateByDate (priceDaily : List DailyPrice) : Dict Nat (Dict String Rat) :=
  Dict.ofList (priceDaily.map fun p => (p.date, p.bzzFiat))

def feeFiatDay (priceDaily : List DailyPrice) (currency : String) (day : DailyFee) : Except PyError Rat :=
  match (rateByDate priceDaily).get? day.date with
  | none => .ok 0
  | some rates => do
    let rate ← orRaise .valueError (rates.get? currency)
    .ok (day.bzz * rate)

def feeFiatDaily (feeDaily : List DailyFee) (priceDaily : List DailyPrice) (currency : String) :
    Except PyError (List Rat) :=
  feeDaily.mapM (feeFiatDay priceDaily currency)

def feeFiatTotal (feeDaily : List DailyFee) (priceDaily : List DailyPrice) (currency : String) :
    Except PyError Rat :=
  (feeFiatDaily feeDaily priceDaily currency).map List.sum

/-! ## Options -/

/-- `BUCKET_WIDTHS`. -/
def bucketWidths : Dict String Nat := [("1d", 1), ("7d", 7), ("30d", 30)]

structure ViewOptions where
  bucketWidth : String
  bucketCount : Int
  since : Option String
  capacityBasis : String
  capacityUnit : String
  fiat : Option String

/-- The defaults of `stat`. -/
def ViewOptions.standard : ViewOptions := ⟨"1d", 30, none, "nominal", "auto", none⟩

/-- `_BINARY_UNITS`, the sizes by their exponents. -/
def binaryUnits : List (String × Nat) :=
  [("TiB", 40), ("GiB", 30), ("MiB", 20), ("KiB", 10), ("B", 0)]

def formatBytes (n : Int) (unit : String) : String :=
  if unit = "chunks" then PyNumber.grouped n 12 ++ " chunks"
  else if unit ∈ ["GiB", "TiB"] then
    PyNumber.fixed n (if unit = "TiB" then 40 else 30) ++ " " ++ unit
  else
    match binaryUnits.find? fun (_, exponent) => (2 : Int) ^ exponent ≤ n with
    | some (name, exponent) => PyNumber.fixed n exponent ++ " " ++ name
    | none => "0 B"

example : ["auto", "TiB", "chunks"].map (formatBytes 68719476736) =
    ["64.00 GiB", "0.06 TiB", "16,777,216 chunks"] := by decide

/-! ## The window and its buckets -/

/-- `xs[start:]`. -/
def sliceFrom {α : Type} (xs : List α) (start : Int) : List α :=
  xs.drop (if start < 0 then xs.length + start else start).toNat

/-- The window of days; `since` wins over `bucket_count`. -/
def windowDates (dates : List Nat) (opts : ViewOptions) (width : Nat) : List Nat :=
  match opts.since with
  | some since => dates.filter fun d => ¬ Calendar.dateText d < since.toList
  | none => sliceFrom dates (-(opts.bucketCount * width))

/-- `_buckets`. -/
def buckets (window : List Nat) (width : Nat) : List (List Nat) :=
  (List.range (pageCount window.length width)).map fun i => slice window (i * width) width

/-! ## The view -/

/-- The options a view shows. -/
structure OptionsView where
  bucketWidth : String
  bucketCount : Int
  capacityBasis : String
  capacityUnit : String
  fiat : Option String

structure FeePoint where
  start : Nat
  bzz : Rat
  fiat : Option Rat

structure CapacityPoint where
  start : Nat
  activeVolumes : Nat
  bytes : Int

structure AccountsPoint where
  start : Nat
  authorized : Nat

structure FeeView where
  unit : String
  total : Rat
  window : Rat
  series : List FeePoint

structure CapacityView where
  activeVolumes : Nat
  basis : String
  bytes : Int
  display : String
  series : List CapacityPoint

structure AccountsView where
  authorized : Nat
  paidInWindow : Dict String Nat
  series : List AccountsPoint

/-- `deployment`, `options` and the three measures. -/
structure View where
  label : String
  chainId : Nat
  registry : String
  registryVersion : String
  genesisTs : Nat
  asOf : AsOf
  options : OptionsView
  feeVolume : FeeView
  capacity : CapacityView
  accounts : AccountsView

/-- `fee_by_date.get(d, 0.0)`. -/
def feeByDate (entry : ArtifactEntry) (d : Nat) : Rat :=
  ((Dict.ofList (entry.feeVolumeDaily.map fun day => (day.date, day.bzz))).get? d).getD 0

/-- `cap_by_date.get(d)`. -/
def capByDate (entry : ArtifactEntry) (d : Nat) : Option DailyCapacity :=
  (Dict.ofList (entry.capacityDaily.map fun day => (day.date, day))).get? d

/-- `acc_by_date.get(d, 0)`. -/
def accByDate (entry : ArtifactEntry) (d : Nat) : Nat :=
  ((Dict.ofList (entry.accountsDaily.map fun day => (day.date, day.authorized))).get? d).getD 0

/-- `fee_fiat`: a day without a rate counts as zero. -/
def feeFiat (entry : ArtifactEntry) (currency : String) (d : Nat) (bzz : Rat) : Rat :=
  match ((rateByDate entry.priceDaily).get? d).bind fun rates => rates.get? currency with
  | some rate => bzz * rate
  | none => 0

def feePoint (entry : ArtifactEntry) (opts : ViewOptions) (bucket : List Nat) : Except PyError FeePoint := do
  let start ← orRaise .indexError bucket.head?
  .ok
    { start
      bzz := (bucket.map (feeByDate entry)).sum
      fiat := opts.fiat.map fun currency =>
        (bucket.map fun d => feeFiat entry currency d (feeByDate entry d)).sum }

/-- The figures of the whole and of the window. -/
def feeFigures (entry : ArtifactEntry) (opts : ViewOptions) (window : List Nat) : Except PyError (Rat × Rat) :=
  match opts.fiat with
  | some currency => do
    let total ← feeFiatTotal entry.feeVolumeDaily entry.priceDaily currency
    .ok (total, (window.map fun d => feeFiat entry currency d (feeByDate entry d)).sum)
  | none => .ok (entry.snapshot.feeVolumeTotalBzz, (window.map (feeByDate entry)).sum)

/-- The figure that `capacity_basis` names. -/
def basisBytes (opts : ViewOptions) (nominal effective : Int) : Int :=
  if opts.capacityBasis = "nominal" then nominal else effective

def capPoint (entry : ArtifactEntry) (opts : ViewOptions) (bucket : List Nat) :
    Except PyError CapacityPoint := do
  let last ← orRaise .indexError bucket.getLast?
  let start ← orRaise .indexError bucket.head?
  match capByDate entry last with
  | some edge => .ok ⟨start, edge.activeVolumes, basisBytes opts edge.nominalBytes edge.effectiveBytes⟩
  | none => .ok ⟨start, 0, 0⟩

def accPoint (entry : ArtifactEntry) (bucket : List Nat) : Except PyError AccountsPoint := do
  let start ← orRaise .indexError bucket.head?
  let last ← orRaise .indexError bucket.getLast?
  .ok ⟨start, accByDate entry last⟩

/-- The currency is one the artifact bakes. -/
def checkFiat (entry : ArtifactEntry) (opts : ViewOptions) : Except PyError Unit :=
  match opts.fiat with
  | some fiat => if fiat ∈ entry.fiatCurrencies then .ok () else .error .valueError
  | none => .ok ()

def resolveView (entry : ArtifactEntry) (opts : ViewOptions) : Except PyError View := do
  checkFiat entry opts
  let width ← orRaise .keyError (bucketWidths.get? opts.bucketWidth)
  let window := windowDates (entry.feeVolumeDaily.map DailyFee.date) opts width
  let buckets := buckets window width
  let feeSeries ← buckets.mapM (feePoint entry opts)
  let (feeTotal, feeWindow) ← feeFigures entry opts window
  let capSeries ← buckets.mapM (capPoint entry opts)
  let snapCap := entry.snapshot.capacity
  let snapBytes := basisBytes opts snapCap.nominalBytes snapCap.effectiveBytes
  let accSeries ← buckets.mapM (accPoint entry)
  .ok
    { label := entry.label
      chainId := entry.chainId
      registry := entry.registry
      registryVersion := entry.registryVersion
      genesisTs := entry.genesisTs
      asOf := entry.asOf
      options := ⟨opts.bucketWidth, opts.bucketCount, opts.capacityBasis, opts.capacityUnit, opts.fiat⟩
      feeVolume :=
        { unit := opts.fiat.getD "BZZ"
          total := feeTotal
          window := feeWindow
          series := feeSeries }
      capacity :=
        { activeVolumes := snapCap.activeVolumes
          basis := opts.capacityBasis
          bytes := snapBytes
          display := formatBytes snapBytes opts.capacityUnit
          series := capSeries }
      accounts :=
        { authorized := entry.snapshot.accounts.authorized
          paidInWindow := entry.snapshot.accounts.paidInWindow
          series := accSeries } }

/-! ## Buckets partition the window -/

variable {window : List Nat} {width : Nat}

theorem width_positive {token : String} (known : bucketWidths.get? token = some width) : 1 ≤ width := by
  have all : ∀ entry ∈ bucketWidths, 1 ≤ entry.2 := by decide
  exact all (token, width) ((Dict.mem_iff_get? (by decide)).mpr known)

theorem buckets_flatten (positive : 1 ≤ width) : (buckets window width).flatten = window :=
  pages_flatten window positive

theorem buckets_length (window : List Nat) (width : Nat) :
    (buckets window width).length = pageCount window.length width := by
  rw [buckets, List.length_map, List.length_range]

theorem mem_buckets {bucket : List Nat} : bucket ∈ buckets window width ↔
    ∃ i < pageCount window.length width, slice window (i * width) width = bucket := by
  rw [buckets, List.mem_map]
  simp only [List.mem_range]

theorem buckets_sizes (positive : 1 ≤ width) :
    ∀ bucket ∈ buckets window width, bucket ≠ [] ∧ bucket.length ≤ width := by
  intro bucket member
  obtain ⟨i, counted, rfl⟩ := mem_buckets.mp member
  have starts := page_starts positive counted
  have size := slice_length window (i * width) width
  refine ⟨List.ne_nil_of_length_pos ?_, ?_⟩
  · omega
  · omega

/-- All buckets but the last are full. -/
theorem buckets_full (positive : 1 ≤ width) :
    ∀ bucket ∈ (buckets window width).dropLast, bucket.length = width := by
  intro bucket member
  obtain ⟨i, inside, rfl⟩ := List.mem_iff_getElem.mp member
  rw [List.length_dropLast, buckets_length] at inside
  have starts : (i + 1) * width < window.length := page_starts positive (by omega)
  have size := slice_length window (i * width) width
  rw [Nat.add_mul] at starts
  simp only [List.getElem_dropLast, buckets, List.getElem_map, List.getElem_range]
  omega

/-- The last bucket ends where the window ends. -/
theorem buckets_last (positive : 1 ≤ width) {bucket : List Nat}
    (last : (buckets window width).getLast? = some bucket) : bucket.getLast? = window.getLast? := by
  have nonempty : bucket ≠ [] := (buckets_sizes positive bucket (List.mem_of_getLast? last)).1
  obtain ⟨initial, split⟩ := List.getLast?_eq_some_iff.mp last
  have whole : (buckets window width).flatten = window := buckets_flatten positive
  rw [split, List.flatten_append, List.flatten_singleton] at whole
  obtain ⟨day, ends⟩ : ∃ day, bucket.getLast? = some day :=
    ⟨_, List.getLast?_eq_some_getLast nonempty⟩
  rw [← whole, List.getLast?_append, ends, Option.some_or]

/-! ## What a view is made of -/

/-- The days a view is folded from. -/
def selectedDays (entry : ArtifactEntry) (opts : ViewOptions) (width : Nat) : List Nat :=
  windowDates (entry.feeVolumeDaily.map DailyFee.date) opts width

/-- The parts of an accepted view, point by point of the buckets. -/
structure Resolved (entry : ArtifactEntry) (opts : ViewOptions) (width : Nat) (view : View) : Prop where
  known : bucketWidths.get? opts.bucketWidth = some width
  fiat : checkFiat entry opts = .ok ()
  fees : List.Forall₂ (fun bucket point => feePoint entry opts bucket = .ok point)
    (buckets (selectedDays entry opts width) width) view.feeVolume.series
  figures : feeFigures entry opts (selectedDays entry opts width) =
    .ok (view.feeVolume.total, view.feeVolume.window)
  capacities : List.Forall₂ (fun bucket point => capPoint entry opts bucket = .ok point)
    (buckets (selectedDays entry opts width) width) view.capacity.series
  accounts : List.Forall₂ (fun bucket point => accPoint entry bucket = .ok point)
    (buckets (selectedDays entry opts width) width) view.accounts.series
  activeVolumes : view.capacity.activeVolumes = entry.snapshot.capacity.activeVolumes
  bytes : view.capacity.bytes =
    basisBytes opts entry.snapshot.capacity.nominalBytes entry.snapshot.capacity.effectiveBytes
  authorized : view.accounts.authorized = entry.snapshot.accounts.authorized

theorem orRaise_success {α : Type} {e : PyError} {found : Option α} {a : α}
    (ok : orRaise e found = .ok a) : found = some a := by
  cases found with
  | none => cases ok
  | some _ => exact congrArg some (Except.ok.inj ok)

theorem resolveView_success {entry : ArtifactEntry} {opts : ViewOptions} {view : View}
    (ok : resolveView entry opts = .ok view) : ∃ width, Resolved entry opts width view := by
  obtain ⟨_, fiat, ok⟩ := bind_success ok
  obtain ⟨width, known, ok⟩ := bind_success ok
  obtain ⟨fees, feeSeries, ok⟩ := bind_success ok
  obtain ⟨⟨total, figure⟩, figures, ok⟩ := bind_success ok
  obtain ⟨capacities, capSeries, ok⟩ := bind_success ok
  obtain ⟨accounts, accSeries, ok⟩ := bind_success ok
  cases ok
  exact ⟨width, orRaise_success known, fiat, mapM_forall₂ feeSeries, figures, mapM_forall₂ capSeries,
    mapM_forall₂ accSeries, rfl, rfl, rfl⟩

namespace Resolved

variable {entry : ArtifactEntry} {opts : ViewOptions} {view : View}

/-- Every series has a point for each bucket. -/
theorem lengths (resolved : Resolved entry opts width view) :
    view.feeVolume.series.length = pageCount (selectedDays entry opts width).length width ∧
    view.capacity.series.length = pageCount (selectedDays entry opts width).length width ∧
    view.accounts.series.length = pageCount (selectedDays entry opts width).length width := by
  rw [← buckets_length, resolved.fees.length_eq, ← resolved.capacities.length_eq,
    ← resolved.accounts.length_eq, resolved.fees.length_eq]
  exact ⟨rfl, rfl, rfl⟩

end Resolved

end SwarmVolumes.Source.Indexer
