import Mathlib.Algebra.BigOperators.Group.List.Basic
import SwarmVolumes.Guarantees.DailySeries
import SwarmVolumes.Source.Indexer.View

/-!
# The view's folds

A view of any entry that a sync projects, whatever the event log, the quotes and the
options. The fee series adds up to the window's figure, in BZZ and in fiat; the capacity
and the accounts are the levels of the last day of each bucket.
-/
namespace SwarmVolumes.Guarantees.ViewFolds
open Library Source.Indexer Projection

/-! ## The days of a projected entry -/

variable {events : EventLog} {asOfTs low : Nat}

/-- The day the fees begin is that of a transfer. -/
theorem feeStep_first {tally after : FeeTally} {row : EventLogRow} (late : low ≤ row.blockTs / oneDay)
    (first : ∀ day, tally.firstDay = some day → low ≤ day ∧ day ≤ asOfTs / oneDay)
    (ok : feeStep asOfTs tally row = .ok after) :
    ∀ day, after.firstDay = some day → low ≤ day ∧ day ≤ asOfTs / oneDay := by
  unfold feeStep at ok
  dsimp only at ok
  split at ok
  · obtain rfl : tally = after := Except.ok.inj ok
    exact first
  · rename_i early
    obtain ⟨_, _, ok⟩ := bind_success ok
    obtain ⟨_, _, ok⟩ := bind_success ok
    obtain rfl := Except.ok.inj ok
    have here : row.blockTs / oneDay ≤ asOfTs / oneDay := Nat.div_le_div_right (Nat.not_lt.mp early)
    intro day counted
    dsimp only at counted
    cases known : tally.firstDay with
    | none =>
      rw [known] at counted
      obtain rfl := Option.some.inj counted
      exact ⟨late, here⟩
    | some earliest =>
      rw [known] at counted
      obtain rfl := Option.some.inj counted
      exact ⟨Nat.le_min.mpr ⟨(first earliest known).1, late⟩, (Nat.min_le_right ..).trans here⟩

theorem feeVolumeDaily_days {series : List DailyFee} (ok : feeVolumeDaily events asOfTs = .ok series)
    (after : ∀ row ∈ events.of ["Transfer"], low ≤ row.blockTs / oneDay) (started : low ≤ asOfTs / oneDay) :
    ∃ first, low ≤ first ∧ first ≤ asOfTs / oneDay ∧
      series.map DailyFee.date = dayRange first (asOfTs / oneDay) := by
  obtain ⟨tally, looped, ok⟩ := bind_success ok
  obtain rfl := Except.ok.inj ok
  have first : ∀ day, tally.firstDay = some day → low ≤ day ∧ day ≤ asOfTs / oneDay :=
    foldlM_keeps (fun tally => ∀ day, tally.firstDay = some day → low ≤ day ∧ day ≤ asOfTs / oneDay)
      (fun _ row member kept _ stepped => feeStep_first (after row member) kept stepped)
      (fun _ counted => by cases counted) looped
  refine ⟨tally.firstDay.getD (asOfTs / oneDay), ?_, ?_, ?_⟩
  · cases known : tally.firstDay with
    | none => exact started
    | some day => exact (first day known).1
  · cases known : tally.firstDay with
    | none => exact Nat.le_refl _
    | some day => exact (first day known).2
  · rw [List.map_map]
    exact List.map_id _

/-- A series with one value for each day of a range has these days. -/
theorem days_of_mapM {α : Type} {date : α → Nat} {sample : Nat → Except PyError α} {days : List Nat}
    {series : List α} (dated : ∀ day a, sample day = .ok a → date a = day) (ok : days.mapM sample = .ok series) :
    series.map date = days := by
  have each := mapM_forall₂ ok
  clear ok
  induction each with
  | nil => rfl
  | cons sampled _ ih => rw [List.map_cons, dated _ _ sampled, ih]

theorem capacityAt_date {day : Nat} {sampled : DailyCapacity} (ok : capacityAt events asOfTs day = .ok sampled) :
    sampled.date = day := by
  obtain ⟨_, _, ok⟩ := bind_success ok
  obtain ⟨_, _, ok⟩ := bind_success ok
  obtain ⟨_, _, ok⟩ := bind_success ok
  obtain rfl := Except.ok.inj ok
  rfl

theorem accountsAt_date {day : Nat} {sampled : DailyAccounts} (ok : accountsAt events asOfTs day = .ok sampled) :
    sampled.date = day := by
  obtain ⟨_, _, ok⟩ := bind_success ok
  obtain rfl := Except.ok.inj ok
  rfl

/-- Padding a series to genesis moves its first day there. -/
theorem padFront_days {α : Type} {date : α → Nat} {zero : Nat → α} {series : List α} {first last genesis : Nat}
    (days : series.map date = dayRange first last) (order : first ≤ last) (dated : ∀ day, date (zero day) = day) :
    (padFront date series genesis zero).map date = dayRange (min first genesis) last := by
  obtain ⟨more, rfl⟩ := Nat.exists_eq_add_of_le order
  have counted : first + more + 1 - first = more + 1 := by omega
  cases series with
  | nil =>
    rw [dayRange, counted, List.range'_succ] at days
    cases days
  | cons head rest =>
    have starts : date head = first := by
      rw [dayRange, counted, List.range'_succ] at days
      exact (List.cons.inj days).1
    rw [padFront, starts]
    split
    · rename_i early
      rw [days, Nat.min_eq_left early]
    · rename_i late
      have padded : ((List.range' genesis (first - genesis)).map zero).map date =
          List.range' genesis (first - genesis) := by
        rw [List.map_map]
        exact (List.map_congr_left fun day _ => dated day).trans (List.map_id _)
      have joined := List.range'_append_1 (s := genesis) (m := first - genesis) (n := more + 1)
      rw [Nat.add_sub_cancel' (by omega)] at joined
      rw [List.map_append, padded, days, dayRange, counted, joined, Nat.min_eq_right (by omega), dayRange]
      exact congrArg (List.range' genesis) (by omega)

/-- An entry's series, each of the days up to the last one. -/
structure Coherent (entry : ArtifactEntry) (last : Nat) : Prop where
  fees : ∃ first ≤ last, entry.feeVolumeDaily.map DailyFee.date = dayRange first last
  capacities : ∃ first ≤ last, entry.capacityDaily.map DailyCapacity.date = dayRange first last
  accounts : ∃ first ≤ last, entry.accountsDaily.map DailyAccounts.date = dayRange first last
  total : entry.snapshot.feeVolumeTotalBzz = (entry.feeVolumeDaily.map DailyFee.bzz).sum
  capacity : ∃ edge, entry.capacityDaily.getLast? = some edge ∧
    entry.snapshot.capacity = ⟨edge.activeVolumes, edge.nominalBytes, edge.effectiveBytes⟩
  authorized : ∃ edge, entry.accountsDaily.getLast? = some edge ∧
    entry.snapshot.accounts.authorized = edge.authorized
  quoted : (entry.priceDaily.map DailyPrice.date).Nodup

variable {deployment : Deployment} {prices : List DailyPrice} {asOfBlock : Nat} {entry : ArtifactEntry}

theorem projectEntry_coherent (projected : projectEntry deployment events prices asOfBlock asOfTs = .ok entry)
    (quoted : (prices.map DailyPrice.date).Nodup) : Coherent entry (asOfTs / oneDay) := by
  obtain ⟨fees, feeSeries, ok⟩ := bind_success projected
  obtain ⟨capacities, capSeries, ok⟩ := bind_success ok
  obtain ⟨accounts, accSeries, ok⟩ := bind_success ok
  obtain ⟨_, _, ok⟩ := bind_success ok
  obtain ⟨lastCap, capacity, ok⟩ := bind_success ok
  obtain ⟨lastAcc, authorized, ok⟩ := bind_success ok
  obtain rfl := Except.ok.inj ok
  obtain ⟨first, _, order, feeDays⟩ :=
    feeVolumeDaily_days feeSeries (fun _ _ => Nat.zero_le _) (Nat.zero_le _)
  have padded : ∀ first ≤ asOfTs / oneDay, min first (deployment.genesisTs / oneDay) ≤ asOfTs / oneDay :=
    fun _ order => (Nat.min_le_left ..).trans order
  exact
    { fees := ⟨_, padded _ order, padFront_days feeDays order fun _ => rfl⟩
      capacities := ⟨_, padded _ (firstDayOf_le ..),
        padFront_days (days_of_mapM (fun _ _ => capacityAt_date) capSeries) (firstDayOf_le ..) fun _ => rfl⟩
      accounts := ⟨_, padded _ (firstDayOf_le ..),
        padFront_days (days_of_mapM (fun _ _ => accountsAt_date) accSeries) (firstDayOf_le ..) fun _ => rfl⟩
      total := rfl
      capacity := ⟨lastCap, orRaise_success capacity, rfl⟩
      authorized := ⟨lastAcc, orRaise_success authorized, rfl⟩
      quoted := quoted }

/-- Without rows before genesis the three series have the same days. -/
theorem projectEntry_aligned (projected : projectEntry deployment events prices asOfBlock asOfTs = .ok entry)
    (after : ∀ names, ∀ row ∈ (events.forDeployment deployment.deploymentId).of names,
      deployment.genesisTs ≤ row.blockTs) (started : deployment.genesisTs ≤ asOfTs) :
    entry.capacityDaily.map DailyCapacity.date = entry.feeVolumeDaily.map DailyFee.date ∧
    entry.accountsDaily.map DailyAccounts.date = entry.feeVolumeDaily.map DailyFee.date := by
  obtain ⟨fees, feeSeries, ok⟩ := bind_success projected
  obtain ⟨capacities, capSeries, ok⟩ := bind_success ok
  obtain ⟨accounts, accSeries, ok⟩ := bind_success ok
  obtain ⟨_, _, ok⟩ := bind_success ok
  obtain ⟨_, _, ok⟩ := bind_success ok
  obtain ⟨_, _, ok⟩ := bind_success ok
  obtain rfl := Except.ok.inj ok
  obtain ⟨first, late, order, feeDays⟩ := feeVolumeDaily_days feeSeries
    (fun row member => Nat.div_le_div_right (after _ row member)) (Nat.div_le_div_right started)
  dsimp only
  rw [padFront_days feeDays order fun _ => rfl,
    padFront_days (days_of_mapM (fun _ _ => capacityAt_date) capSeries) (firstDayOf_le ..) fun _ => rfl,
    padFront_days (days_of_mapM (fun _ _ => accountsAt_date) accSeries) (firstDayOf_le ..) fun _ => rfl,
    Nat.min_eq_right late, Nat.min_eq_right (le_firstDayOf (after _) started),
    Nat.min_eq_right (le_firstDayOf (after _) started)]
  exact ⟨rfl, rfl⟩

/-- The quotes of a day are one price. -/
theorem fetchPriceDaily_days (api : PriceApi) (chainId : Nat) (tokenAddress : String) (start end_ : Nat) :
    ((fetchPriceDaily api chainId tokenAddress start end_).map DailyPrice.date).Nodup := by
  unfold fetchPriceDaily
  cases llamaChain.get? chainId with
  | none => exact List.nodup_nil
  | some slug =>
    dsimp only
    split
    · exact List.nodup_nil
    · rename_i points _
      rw [List.map_map]
      have keyed : (quotesByDay points).keys.Nodup := by
        rw [quotesByDay, ← List.foldl_map (g := fun byDay entry => Dict.set byDay entry.1 entry.2)
          (f := fun point : Quote => (point.timestamp / oneDay, point.price))]
        exact Dict.nodup_ofList _
      exact ((List.perm_insertionSort _ _).map Prod.fst).nodup_iff.mpr keyed

/-! ## The window -/

section Window

variable {opts : ViewOptions} {width last : Nat}

/-- The days a view is folded from are the last of the days. -/
theorem selected_suffix (coherent : Coherent entry last) (datable : last < Calendar.endOfTime)
    (opts : ViewOptions) (width : Nat) :
    selectedDays entry opts width <:+ entry.feeVolumeDaily.map DailyFee.date := by
  obtain ⟨first, _, days⟩ := coherent.fees
  rw [selectedDays, windowDates]
  cases opts.since with
  | none => exact List.drop_suffix ..
  | some since =>
    dsimp only
    rw [days]
    have ascending : (dayRange first last).Pairwise (· < ·) := List.pairwise_lt_range'
    have bounded : ∀ day ∈ dayRange first last, day ≤ last := fun day member => (mem_dayRange.mp member).2
    generalize dayRange first last = days at ascending bounded
    induction days with
    | nil => exact List.suffix_refl _
    | cons day days ih =>
      obtain ⟨least, ascending⟩ := List.pairwise_cons.mp ascending
      by_cases kept : Calendar.dateText day < since.toList
      · rw [List.filter_cons_of_neg (by simpa using kept)]
        exact (ih ascending fun later member => bounded later (List.mem_cons_of_mem _ member)).trans
          (List.suffix_cons ..)
      · have all : ∀ later ∈ day :: days, ¬ Calendar.dateText later < since.toList := by
          refine List.forall_mem_cons.mpr ⟨kept, fun later member below => kept ?_⟩
          have within := (bounded later (List.mem_cons_of_mem _ member)).trans_lt datable
          exact List.lt_trans (Calendar.dateText_lt (least later member) within) below
        rw [List.filter_eq_self.mpr fun later member => decide_eq_true (all later member)]

theorem fees_distinct (coherent : Coherent entry last) : (entry.feeVolumeDaily.map DailyFee.date).Nodup := by
  obtain ⟨first, _, days⟩ := coherent.fees
  rw [days]
  exact List.nodup_range'

/-- The price of a day in a currency. -/
def rateOn (entry : ArtifactEntry) (currency : String) (day : Nat) : Option Rat :=
  (entry.priceDaily.find? fun price => price.date = day).bind fun price => price.bzzFiat.get? currency

/-- What a day's fees count in the unit of a view; without a rate nothing. -/
def worth (entry : ArtifactEntry) : Option String → DailyFee → Rat
  | none, fee => fee.bzz
  | some currency, fee =>
    match rateOn entry currency fee.date with
    | some rate => fee.bzz * rate
    | none => 0

/-- What the fees of some days are worth. -/
def figure (entry : ArtifactEntry) (unit : Option String) (days : List Nat) : Rat :=
  ((entry.feeVolumeDaily.filter fun fee => fee.date ∈ days).map (worth entry unit)).sum

/-- The figure is that of the set of days. -/
theorem figure_congr {unit : Option String} {days days' : List Nat} (same : ∀ day, day ∈ days ↔ day ∈ days') :
    figure entry unit days = figure entry unit days' := by
  unfold figure
  simp only [same]

/-- Of all days it is what all fees are worth. -/
theorem figure_all (entry : ArtifactEntry) (unit : Option String) :
    figure entry unit (entry.feeVolumeDaily.map DailyFee.date) =
      (entry.feeVolumeDaily.map (worth entry unit)).sum := by
  rw [figure, List.filter_eq_self.mpr fun fee member => decide_eq_true (List.mem_map_of_mem member)]

/-- What is read day by day off the last days is the figure, where each fee is read as
its worth. -/
theorem sum_selected {unit : Option String} {read : Nat → Rat} {days : List Nat}
    (distinct : (entry.feeVolumeDaily.map DailyFee.date).Nodup)
    (suffix : days <:+ entry.feeVolumeDaily.map DailyFee.date)
    (each : ∀ fee ∈ entry.feeVolumeDaily, read fee.date = worth entry unit fee) :
    (days.map read).sum = figure entry unit days := by
  have own : days = (entry.feeVolumeDaily.filter fun fee => fee.date ∈ days).map DailyFee.date := by
    have filtered : (entry.feeVolumeDaily.map DailyFee.date).filter (fun day => day ∈ days) = days := by
      obtain ⟨older, split⟩ := suffix
      rw [← split] at distinct ⊢
      obtain ⟨_, _, apart⟩ := List.nodup_append.mp distinct
      rw [List.filter_append, List.filter_eq_nil_iff.mpr, List.filter_eq_self.mpr, List.nil_append]
      · exact fun day member => decide_eq_true member
      · exact fun day early member => apart day early day (of_decide_eq_true member) rfl
    rw [List.filter_map] at filtered
    exact filtered.symm
  conv_lhs => rw [own]
  rw [List.map_map, figure]
  exact congrArg List.sum (List.map_congr_left fun fee member => each fee (List.mem_of_mem_filter member))

theorem feeByDate_eq (coherent : Coherent entry last) {fee : DailyFee} (member : fee ∈ entry.feeVolumeDaily) :
    feeByDate entry fee.date = fee.bzz := by
  rw [feeByDate, Dict.get?_ofList_keyed DailyFee.bzz (fees_distinct coherent),
    Dict.find?_keyed (fees_distinct coherent) member]
  rfl

theorem rateByDate_eq (coherent : Coherent entry last) (currency : String) (day : Nat) :
    (((rateByDate entry.priceDaily).get? day).bind fun rates => rates.get? currency) =
      rateOn entry currency day := by
  rw [rateByDate, Dict.get?_ofList_keyed DailyPrice.bzzFiat coherent.quoted, rateOn, Option.bind_map]
  rfl

/-- A fee as the fold reads it. -/
theorem read_worth (coherent : Coherent entry last) (currency : String) {fee : DailyFee}
    (member : fee ∈ entry.feeVolumeDaily) :
    feeFiat entry currency fee.date (feeByDate entry fee.date) = worth entry (some currency) fee := by
  rw [feeFiat, rateByDate_eq coherent, feeByDate_eq coherent member]
  rfl

/-- A fee as `fee_fiat_daily` counts it. -/
theorem feeFiatDay_worth (coherent : Coherent entry last) {currency : String} {fee : DailyFee} {amount : Rat}
    (ok : feeFiatDay entry.priceDaily currency fee = .ok amount) : amount = worth entry (some currency) fee := by
  have rates := rateByDate_eq coherent currency fee.date
  unfold feeFiatDay at ok
  unfold worth
  dsimp only
  cases found : (rateByDate entry.priceDaily).get? fee.date with
  | none =>
    rw [found, Option.bind_none] at rates
    rw [found] at ok
    rw [← rates]
    exact (Except.ok.inj ok).symm
  | some listed =>
    rw [found, Option.bind_some] at rates
    rw [found] at ok
    obtain ⟨rate, quoted, ok⟩ := bind_success ok
    rw [← rates, orRaise_success quoted]
    exact (Except.ok.inj ok).symm

/-- `fee_fiat_total` is what all fees are worth. -/
theorem feeFiatTotal_worth (coherent : Coherent entry last) {currency : String} {total : Rat}
    (ok : feeFiatTotal entry.feeVolumeDaily entry.priceDaily currency = .ok total) :
    total = (entry.feeVolumeDaily.map (worth entry (some currency))).sum := by
  obtain ⟨amounts, daily, rfl⟩ := map_success ok
  have each := mapM_forall₂ daily
  clear daily ok
  generalize entry.feeVolumeDaily = fees at each
  induction each with
  | nil => rfl
  | cons counted _ ih => rw [List.sum_cons, ih, List.map_cons, List.sum_cons, feeFiatDay_worth coherent counted]

/-! ## The points -/

/-- The active volumes and the bytes of a day; none before the series begins. -/
def capacityOn (entry : ArtifactEntry) (opts : ViewOptions) (day : Nat) : Nat × Int :=
  match entry.capacityDaily.find? fun level => level.date = day with
  | some level => (level.activeVolumes, basisBytes opts level.nominalBytes level.effectiveBytes)
  | none => (0, 0)

/-- The authorized accounts of a day. -/
def accountsOn (entry : ArtifactEntry) (day : Nat) : Nat :=
  ((entry.accountsDaily.find? fun level => level.date = day).map DailyAccounts.authorized).getD 0

theorem feePoint_spec {bucket : List Nat} {point : FeePoint} (ok : feePoint entry opts bucket = .ok point) :
    bucket.head? = some point.start ∧ point.bzz = (bucket.map (feeByDate entry)).sum ∧
    point.fiat = opts.fiat.map fun currency =>
      (bucket.map fun d => feeFiat entry currency d (feeByDate entry d)).sum := by
  obtain ⟨start, first, ok⟩ := bind_success ok
  obtain rfl := Except.ok.inj ok
  exact ⟨orRaise_success first, rfl, rfl⟩

theorem capByDate_eq (coherent : Coherent entry last) (day : Nat) :
    capByDate entry day = entry.capacityDaily.find? fun level => level.date = day := by
  obtain ⟨first, _, days⟩ := coherent.capacities
  have distinct : (entry.capacityDaily.map DailyCapacity.date).Nodup := days ▸ List.nodup_range'
  exact (Dict.get?_ofList_keyed id distinct).trans (congrFun Option.map_id _)

theorem capPoint_spec (coherent : Coherent entry last) {bucket : List Nat} {point : CapacityPoint}
    (ok : capPoint entry opts bucket = .ok point) : bucket.head? = some point.start ∧
    ∃ day, bucket.getLast? = some day ∧ (point.activeVolumes, point.bytes) = capacityOn entry opts day := by
  obtain ⟨day, ends, ok⟩ := bind_success ok
  obtain ⟨start, starts, ok⟩ := bind_success ok
  rw [capByDate_eq coherent] at ok
  unfold capacityOn
  cases found : entry.capacityDaily.find? fun level => level.date = day with
  | none =>
    rw [found] at ok
    obtain rfl := Except.ok.inj ok
    exact ⟨orRaise_success starts, day, orRaise_success ends, by rw [found]⟩
  | some edge =>
    rw [found] at ok
    obtain rfl := Except.ok.inj ok
    exact ⟨orRaise_success starts, day, orRaise_success ends, by rw [found]⟩

theorem accPoint_spec (coherent : Coherent entry last) {bucket : List Nat} {point : AccountsPoint}
    (ok : accPoint entry bucket = .ok point) : bucket.head? = some point.start ∧
    ∃ day, bucket.getLast? = some day ∧ point.authorized = accountsOn entry day := by
  obtain ⟨first, _, days⟩ := coherent.accounts
  have distinct : (entry.accountsDaily.map DailyAccounts.date).Nodup := days ▸ List.nodup_range'
  obtain ⟨start, starts, ok⟩ := bind_success ok
  obtain ⟨day, ends, ok⟩ := bind_success ok
  obtain rfl := Except.ok.inj ok
  refine ⟨orRaise_success starts, day, orRaise_success ends, ?_⟩
  dsimp only
  rw [accByDate, Dict.get?_ofList_keyed DailyAccounts.authorized distinct, accountsOn]

/-- The levels of the last day are the snapshot. -/
theorem last_levels (coherent : Coherent entry last) (opts : ViewOptions) :
    capacityOn entry opts last = (entry.snapshot.capacity.activeVolumes,
      basisBytes opts entry.snapshot.capacity.nominalBytes entry.snapshot.capacity.effectiveBytes) ∧
    accountsOn entry last = entry.snapshot.accounts.authorized := by
  have ends : ∀ {α : Type} {date : α → Nat} {series : List α} {edge : α},
      (∃ first ≤ last, series.map date = dayRange first last) → series.getLast? = some edge →
        (series.find? fun level => date level = last) = some edge := by
    rintro α date series edge ⟨first, order, days⟩ final
    have distinct : (series.map date).Nodup := days ▸ List.nodup_range'
    have dated : some (date edge) = some last := by
      have mapped := congrArg List.getLast? days
      rw [List.getLast?_map, final, dayRange, List.getLast?_range', if_neg (by omega)] at mapped
      exact mapped.trans (congrArg some (by omega))
    rw [← Option.some.inj dated]
    exact Dict.find?_keyed distinct (List.mem_of_getLast? final)
  obtain ⟨edge, final, capacity⟩ := coherent.capacity
  obtain ⟨edge', final', authorized⟩ := coherent.authorized
  rw [capacityOn, accountsOn, ends coherent.capacities final, ends coherent.accounts final', capacity,
    authorized]
  exact ⟨rfl, rfl⟩

/-- The last day selected is the last of all. -/
theorem selected_last (coherent : Coherent entry last) {days : List Nat} {day : Nat}
    (suffix : days <:+ entry.feeVolumeDaily.map DailyFee.date) (ends : days.getLast? = some day) : day = last := by
  obtain ⟨first, order, all⟩ := coherent.fees
  obtain ⟨older, split⟩ := suffix
  have final := congrArg List.getLast? (split.trans all)
  rw [List.getLast?_append, ends, Option.some_or, dayRange, List.getLast?_range', if_neg (by omega)] at final
  have := Option.some.inj final
  omega

end Window

/-! ## The view -/

/-- What holds of a view. The days selected are the last ones and the buckets partition
them; flows add up to the figure of the window, and stocks are those of the last day of
each bucket. -/
structure Folds (entry : ArtifactEntry) (opts : ViewOptions) (width : Nat) (view : View) : Prop where
  recent : selectedDays entry opts width <:+ entry.feeVolumeDaily.map DailyFee.date
  quoted : (entry.priceDaily.map DailyPrice.date).Nodup
  partition : (buckets (selectedDays entry opts width) width).flatten = selectedDays entry opts width
  full : ∀ bucket ∈ (buckets (selectedDays entry opts width) width).dropLast, bucket.length = width
  sized : ∀ bucket ∈ buckets (selectedDays entry opts width) width, bucket ≠ [] ∧ bucket.length ≤ width
  bzz : (view.feeVolume.series.map FeePoint.bzz).sum = figure entry none (selectedDays entry opts width)
  fiat : ∀ currency, opts.fiat = some currency →
    ∃ amounts : List Rat, view.feeVolume.series.map FeePoint.fiat = amounts.map some ∧
      amounts.sum = figure entry (some currency) (selectedDays entry opts width)
  window : view.feeVolume.window = figure entry opts.fiat (selectedDays entry opts width)
  snapshotTotal : opts.fiat = none → view.feeVolume.total = entry.snapshot.feeVolumeTotalBzz
  fiatTotal : ∀ currency, opts.fiat = some currency →
    feeFiatTotal entry.feeVolumeDaily entry.priceDaily currency = .ok view.feeVolume.total
  whole : selectedDays entry opts width = entry.feeVolumeDaily.map DailyFee.date →
    view.feeVolume.window = view.feeVolume.total
  feeStarts : view.feeVolume.series.map (fun point => some point.start) =
    (buckets (selectedDays entry opts width) width).map List.head?
  capacityStarts : view.capacity.series.map CapacityPoint.start = view.feeVolume.series.map FeePoint.start
  accountsStarts : view.accounts.series.map AccountsPoint.start = view.feeVolume.series.map FeePoint.start
  capacities : List.Forall₂ (fun bucket point => ∃ day, bucket.getLast? = some day ∧
      (point.activeVolumes, point.bytes) = capacityOn entry opts day)
    (buckets (selectedDays entry opts width) width) view.capacity.series
  accounts : List.Forall₂ (fun bucket point => ∃ day, bucket.getLast? = some day ∧
      point.authorized = accountsOn entry day)
    (buckets (selectedDays entry opts width) width) view.accounts.series
  lastCapacity : ∀ point, view.capacity.series.getLast? = some point →
    (point.activeVolumes, point.bytes) = (entry.snapshot.capacity.activeVolumes,
      basisBytes opts entry.snapshot.capacity.nominalBytes entry.snapshot.capacity.effectiveBytes)
  lastAccounts : ∀ point, view.accounts.series.getLast? = some point →
    point.authorized = entry.snapshot.accounts.authorized

/-- Lists whose elements agree in pairs on what is read of them. -/
theorem map_eq_of_forall₂ {α β γ : Type} {R : α → β → Prop} {f : α → γ} {g : β → γ} {as : List α} {bs : List β}
    (each : List.Forall₂ R as bs) (agree : ∀ a b, R a b → f a = g b) : as.map f = bs.map g := by
  induction each with
  | nil => rfl
  | cons here _ ih => rw [List.map_cons, List.map_cons, agree _ _ here, ih]

theorem forall₂_last {α β : Type} {R : α → β → Prop} {as : List α} {bs : List β} {b : β}
    (each : List.Forall₂ R as bs) (last : bs.getLast? = some b) : ∃ a, as.getLast? = some a ∧ R a b := by
  rw [List.getLast?_eq_head?_reverse] at last ⊢
  have reversed := List.forall₂_reverse_iff.mpr each
  generalize as.reverse = as' at reversed ⊢
  generalize bs.reverse = bs' at reversed last
  cases reversed with
  | nil => cases last
  | cons here _ =>
    obtain rfl := Option.some.inj last
    exact ⟨_, rfl, here⟩

variable {opts : ViewOptions} {width last : Nat} {view : View}

/-- Summing bucket by bucket sums the days. -/
theorem sum_buckets {days : List Nat} (positive : 1 ≤ width) (read : Nat → Rat) :
    ((buckets days width).map fun bucket => (bucket.map read).sum).sum = (days.map read).sum := by
  have whole : (buckets days width).flatten = days := buckets_flatten positive
  conv_rhs => rw [← whole, List.map_flatten, List.sum_flatten, List.map_map]
  rfl

/-- The two figures of a view are worths of fees: of all, and of those selected. -/
theorem figures_worth (coherent : Coherent entry last)
    (suffix : selectedDays entry opts width <:+ entry.feeVolumeDaily.map DailyFee.date)
    {total window : Rat} (ok : feeFigures entry opts (selectedDays entry opts width) = .ok (total, window)) :
    total = figure entry opts.fiat (entry.feeVolumeDaily.map DailyFee.date) ∧
    window = figure entry opts.fiat (selectedDays entry opts width) ∧
    (opts.fiat = none → total = entry.snapshot.feeVolumeTotalBzz) ∧
    ∀ currency, opts.fiat = some currency →
      feeFiatTotal entry.feeVolumeDaily entry.priceDaily currency = .ok total := by
  have distinct := fees_distinct coherent
  unfold feeFigures at ok
  rw [figure_all]
  cases unit : opts.fiat with
  | none =>
    rw [unit] at ok
    cases ok
    exact ⟨coherent.total, sum_selected distinct suffix fun fee => feeByDate_eq coherent, fun _ => rfl, nofun⟩
  | some currency =>
    rw [unit] at ok
    obtain ⟨amount, totaled, ok⟩ := bind_success ok
    cases ok
    refine ⟨feeFiatTotal_worth coherent totaled, ?_, nofun, fun _ same => ?_⟩
    · exact sum_selected distinct suffix fun fee => read_worth coherent currency
    · rwa [← Option.some.inj same]

theorem folds_of_coherent (coherent : Coherent entry last) (datable : last < Calendar.endOfTime)
    (resolved : Resolved entry opts width view) : Folds entry opts width view := by
  have positive := width_positive resolved.known
  have distinct := fees_distinct coherent
  have suffix := selected_suffix coherent datable opts width
  obtain ⟨total, window, snapshotTotal, fiatTotal⟩ := figures_worth coherent suffix resolved.figures
  have capacities := resolved.capacities.imp fun _ _ ok => capPoint_spec coherent ok
  have accounts := resolved.accounts.imp fun _ _ ok => accPoint_spec coherent ok
  have feeStarts : (buckets (selectedDays entry opts width) width).map List.head? =
      view.feeVolume.series.map fun point => some point.start :=
    map_eq_of_forall₂ resolved.fees fun _ _ ok => (feePoint_spec ok).1
  have capacityStarts : (buckets (selectedDays entry opts width) width).map List.head? =
      view.capacity.series.map fun point => some point.start :=
    map_eq_of_forall₂ capacities fun _ _ point => point.1
  have accountsStarts : (buckets (selectedDays entry opts width) width).map List.head? =
      view.accounts.series.map fun point => some point.start :=
    map_eq_of_forall₂ accounts fun _ _ point => point.1
  have unwrapped : ∀ {α : Type} {start : α → Nat} {series : List α},
      (series.map fun point => some (start point)) = (view.feeVolume.series.map fun point => some point.start) →
        series.map start = view.feeVolume.series.map FeePoint.start := by
    intro α start series same
    refine List.map_injective_iff.mpr (Option.some_injective Nat) ?_
    rwa [List.map_map, List.map_map]
  have ends : ∀ {bucket : List Nat} {day : Nat},
      (buckets (selectedDays entry opts width) width).getLast? = some bucket → bucket.getLast? = some day →
        day = last := by
    intro bucket day final edge
    rw [buckets_last positive final] at edge
    exact selected_last coherent suffix edge
  refine
    { recent := suffix
      quoted := coherent.quoted
      partition := buckets_flatten positive
      full := buckets_full positive
      sized := buckets_sizes positive
      bzz := ?_
      fiat := fun currency unit => ?_
      window
      snapshotTotal
      fiatTotal
      whole := fun all => by rw [window, total, all]
      feeStarts := feeStarts.symm
      capacityStarts := unwrapped (capacityStarts.symm.trans feeStarts)
      accountsStarts := unwrapped (accountsStarts.symm.trans feeStarts)
      capacities := capacities.imp fun _ _ point => point.2
      accounts := accounts.imp fun _ _ point => point.2
      lastCapacity := fun point final => ?_
      lastAccounts := fun point final => ?_ }
  · rw [← map_eq_of_forall₂ resolved.fees fun _ _ ok => (feePoint_spec ok).2.1.symm, sum_buckets positive]
    exact sum_selected distinct suffix fun fee => feeByDate_eq coherent
  · refine ⟨(buckets (selectedDays entry opts width) width).map fun bucket =>
      (bucket.map fun d => feeFiat entry currency d (feeByDate entry d)).sum, ?_, ?_⟩
    · rw [List.map_map]
      refine (map_eq_of_forall₂ resolved.fees fun _ _ ok => ?_).symm
      rw [(feePoint_spec ok).2.2, unit]
      rfl
    · rw [sum_buckets positive]
      exact sum_selected distinct suffix fun fee => read_worth coherent currency
  · obtain ⟨bucket, final', _, day, edge, level⟩ := forall₂_last capacities final
    rw [level, ends final' edge, (last_levels coherent opts).1]
  · obtain ⟨bucket, final', _, day, edge, level⟩ := forall₂_last accounts final
    rw [level, ends final' edge, (last_levels coherent opts).2]

/-- A view of a projected entry folds its series, and its window is worth the same under
any options that select the same days. Every day has its levels where no row is before
genesis. -/
theorem view_folds {api : PriceApi} {chainId : Nat} {tokenAddress : String} {start end_ : Nat}
    (projected : projectEntry deployment events (fetchPriceDaily api chainId tokenAddress start end_)
      asOfBlock asOfTs = .ok entry) (datable : asOfTs / oneDay < Calendar.endOfTime)
    (ok : resolveView entry opts = .ok view) :
    ∃ width, bucketWidths.get? opts.bucketWidth = some width ∧ Folds entry opts width view ∧
      (∀ opts' view' width', resolveView entry opts' = .ok view' →
        bucketWidths.get? opts'.bucketWidth = some width' → opts'.fiat = opts.fiat →
        (∀ day, day ∈ selectedDays entry opts' width' ↔ day ∈ selectedDays entry opts width) →
          view'.feeVolume.window = view.feeVolume.window) ∧
      ((∀ names, ∀ row ∈ (events.forDeployment deployment.deploymentId).of names,
          deployment.genesisTs ≤ row.blockTs) → deployment.genesisTs ≤ asOfTs →
        entry.capacityDaily.map DailyCapacity.date = entry.feeVolumeDaily.map DailyFee.date ∧
        entry.accountsDaily.map DailyAccounts.date = entry.feeVolumeDaily.map DailyFee.date) := by
  have coherent := projectEntry_coherent projected (fetchPriceDaily_days ..)
  obtain ⟨width, resolved⟩ := resolveView_success ok
  have folds := folds_of_coherent coherent datable resolved
  refine ⟨width, resolved.known, folds, fun opts' view' width' ok' known' unit same => ?_,
    projectEntry_aligned projected⟩
  obtain ⟨width'', resolved'⟩ := resolveView_success ok'
  obtain rfl : width'' = width' := Option.some.inj (resolved'.known.symm.trans known')
  rw [(folds_of_coherent coherent datable resolved').window, folds.window, unit, figure_congr same]

/-! ## Two days, the first with two quotes -/

def sampleApi : PriceApi := fun _ _ => some [⟨500, 1 / 2⟩, ⟨600, 3 / 10⟩]

def sampleQuoted : Deployment := { DailySeries.sampleRegistered with fiatCurrencies := ["USD"] }

def sampleOptions : ViewOptions := { ViewOptions.standard with fiat := some "USD" }

theorem view_folds_sample : ∃ entry view,
    projectEntry sampleQuoted (RowLog.fromRows DailySeries.sampleRows)
      (fetchPriceDaily sampleApi 100 "0x2" 0 90000) 10 100000 = .ok entry ∧
    resolveView entry sampleOptions = .ok view ∧ Folds entry sampleOptions 1 view := by
  have accepted : (projectEntry sampleQuoted (RowLog.fromRows DailySeries.sampleRows)
      (fetchPriceDaily sampleApi 100 "0x2" 0 90000) 10 100000 >>= fun entry =>
        resolveView entry sampleOptions).isOk = true := by
    decide +kernel
  obtain ⟨view, resolved⟩ := success_of_isOk accepted
  obtain ⟨entry, projected, resolved⟩ := bind_success resolved
  obtain ⟨width, known, folds, _⟩ := view_folds projected (by decide) resolved
  obtain rfl : 1 = width := Option.some.inj known
  exact ⟨entry, view, projected, resolved, folds⟩

end SwarmVolumes.Guarantees.ViewFolds
