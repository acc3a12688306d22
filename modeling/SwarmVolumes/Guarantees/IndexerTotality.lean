import SwarmVolumes.Guarantees.Projection

/-!
# When the projector returns

`project_entry` looks every active depth up in the effective-capacity table, once
for each reported day. The registry enters batches of any depth above Postage's
minimum bucket depth, and one active volume whose depth the table does not have
leaves the deployment without an entry.
-/
namespace SwarmVolumes.Guarantees.IndexerTotality
open Library Source Source.Indexer Replay Projection

/-- Every volume active at the end of a reported day has a depth in the table. -/
def TabledDays {T P : Type} (es : List (Entry T P)) (deployment : Indexer.Deployment)
    (asOfTs : Nat) : Prop :=
  ∀ day ∈ reported deployment asOfTs, ∀ id,
    ((storeAt es (dayEnd day asOfTs)).volumes id).status = .active →
      Tabled ((storeAt es (dayEnd day asOfTs)).volumes id).depth

theorem effectiveBytes_success {depth : UInt8} {bytes : Int}
    (ok : effectiveBytes (natValue depth.toNat) = .ok bytes) : Tabled depth := by
  change orRaise .keyError (effectiveBytesTable.get? depth.toNat) = _ at ok
  unfold Tabled
  cases found : effectiveBytesTable.get? (depth.toNat : Int) with
  | none =>
    rw [found] at ok
    cases ok
  | some _ => rfl

theorem sumOf_success {f : Value → Except PyError Int} {depths : List Value} {sum : Int}
    (ok : sumOf f depths = .ok sum) : ∀ depth ∈ depths, ∃ bytes, f depth = .ok bytes := by
  have each : ∀ total, depths.foldlM (fun total depth => do .ok (total + (← f depth))) total = .ok sum →
      ∀ depth ∈ depths, ∃ bytes, f depth = .ok bytes := by
    clear ok
    induction depths with
    | nil => nofun
    | cons depth depths ih =>
      intro total ok
      rw [List.foldlM_cons] at ok
      obtain ⟨next, added, rest⟩ := bind_success ok
      obtain ⟨bytes, found, _⟩ := bind_success added
      exact List.forall_mem_cons.mpr ⟨⟨bytes, found⟩, ih next rest⟩
  exact each 0 ok

variable {T P : Type} {d : Source.Deployment T P} {w₀ w : World T P} {es : List (Entry T P)}
  {logs : List RawLog} {rows : List EventLogRow} {deployment : Indexer.Deployment} {asOfTs : Nat}

/-- Sampling a day looks up the depth of every volume active at its end. -/
theorem capacityAt_success {deploymentId : DeploymentId} {day : Nat} {sampled : DailyCapacity}
    (chain : Stored d w₀ es w deploymentId logs rows)
    (ok : capacityAt (eventsOf deploymentId rows) asOfTs day = .ok sampled) :
    ∀ id, ((storeAt es (dayEnd day asOfTs)).volumes id).status = .active →
      Tabled ((storeAt es (dayEnd day asOfTs)).volumes id).depth := by
  intro id isActive
  obtain ⟨active, mirrors, computed⟩ := chain.active_at (dayEnd day asOfTs)
  unfold capacityAt at ok
  rw [computed, ok_bind] at ok
  obtain ⟨_, _, ok⟩ := bind_success ok
  obtain ⟨_, summed, _⟩ := bind_success ok
  have listed := (mirrors.listed id _).mpr ⟨isActive, rfl⟩
  obtain ⟨bytes, found⟩ := sumOf_success summed
    (natValue ((storeAt es (dayEnd day asOfTs)).volumes id).depth.toNat)
    (List.mem_map_of_mem (f := Prod.snd) (List.mem_map_of_mem listed))
  exact effectiveBytes_success found

/-- An entry is the proof that every lookup succeeded. -/
theorem tabled_of_entry {priceDaily : List DailyPrice} {asOfBlock : Nat} {entry : ArtifactEntry}
    (chain : Stored d w₀ es w deployment.deploymentId logs rows)
    (ok : projectEntry deployment (RowLog.fromRows rows) priceDaily asOfBlock asOfTs = .ok entry) :
    TabledDays es deployment asOfTs := by
  intro day member id isActive
  obtain ⟨_, _, ok⟩ := bind_success ok
  obtain ⟨cap, sampled, _⟩ := bind_success ok
  have started : firstDayOf ((eventsOf deployment.deploymentId rows).of admitEvents) asOfTs ≤ day := by
    by_contra early
    have none := chain.inactive_before (Nat.not_le.mp early)
    have listed : id ∈ activeVolumes (storeAt es (dayEnd day asOfTs)) :=
      Finset.mem_filter.mpr ⟨Finset.mem_univ _, isActive⟩
    rw [none] at listed
    cases listed
  obtain ⟨_, day_ok⟩ := mapM_success sampled day (mem_dayRange.mpr ⟨started, (mem_dayRange.mp member).2⟩)
  exact capacityAt_success chain day_ok id isActive

/-- The projector returns an entry, and one with the exact nominal bytes of each
day, exactly when every depth it samples is in the table. -/
theorem entry_iff_tabled (documented : d.Documented) (deployed : Deployed d w₀)
    (run : Run d ticks w₀ es w) (indexes : Indexes w logs) (deployment : Indexer.Deployment)
    (genesis : deployment.genesisTs ≤ w₀.block.timestamp) {asOfTs : Nat}
    (started : deployment.genesisTs ≤ asOfTs) (priceDaily : List DailyPrice) (asOfBlock : Nat) :
    ∃ decoded, decodeLogs d deployment.deploymentId logs = .ok decoded ∧
      ∀ rows, rows.Perm decoded →
        ((∃ entry,
          projectEntry deployment (RowLog.fromRows rows) priceDaily asOfBlock asOfTs = .ok entry ∧
          entry.capacityDaily.map DailyCapacity.nominalBytes =
            (reported deployment asOfTs).map fun day =>
              ∑ id ∈ activeVolumes (storeAt es (dayEnd day asOfTs)),
                2 ^ ((storeAt es (dayEnd day asOfTs)).volumes id).depth.toNat * 4096) ↔
        TabledDays es deployment asOfTs) := by
  have decodable : Stored d w₀ es w (0, "") logs _ := ⟨documented, deployed, run, indexes, .refl _⟩
  have named := decodable.named
  refine ⟨_, decodeLogs_ok named, fun rows stored => ?_⟩
  have chain : Stored d w₀ es w deployment.deploymentId logs rows :=
    ⟨documented, deployed, run, indexes, stored⟩
  constructor
  · rintro ⟨entry, projected, _⟩
    exact tabled_of_entry chain projected
  · intro tabled
    obtain ⟨entry, projected, reports⟩ := chain.entry genesis started tabled priceDaily asOfBlock
    refine ⟨entry, projected, ?_⟩
    rw [reports.capacity, List.map_map]
    refine List.map_congr_left fun day _ => ?_
    rw [Function.comp_apply, capacityOf]

/-! ## A deep batch -/

/-- Postage knows one live batch of depth 42. -/
def deepOffice : Reference.Office :=
  { Sample.office with
    batches := fun id => if id = Sample.batch then ⟨0xC, 42, 16, false, 5, 100⟩ else ⟨0, 0, 0, false, 0, 0⟩ }

def deepGenesis : World Reference.Ledger Reference.Office := { Sample.genesis with postage := deepOffice }

def deepEntries : List (Entry Reference.Ledger Reference.Office) :=
  (play Sample.deployment deepGenesis Sample.enrolling).1

def deepFinal : World Reference.Ledger Reference.Office :=
  (play Sample.deployment deepGenesis Sample.enrolling).2

theorem deep_run : Run Sample.deployment ticks deepGenesis deepEntries deepFinal :=
  play_run (fun _ => .inl rfl) (by decide)

/-- An owner registers the batch; the projector has no entry for the deployment. -/
theorem deep_volume_stops_projector :
    Run Sample.deployment ticks deepGenesis deepEntries deepFinal ∧
    Indexes deepFinal (indexed deepFinal.logs) ∧
    ∃ decoded,
      decodeLogs Sample.deployment sampleDeployment.deploymentId (indexed deepFinal.logs) = .ok decoded ∧
      ∀ entry, projectEntry sampleDeployment (RowLog.fromRows decoded) [] 100 1000 ≠ .ok entry := by
  have deployed : Deployed Sample.deployment deepGenesis := ⟨rfl, rfl⟩
  have chain : Stored Sample.deployment deepGenesis deepEntries deepFinal
      sampleDeployment.deploymentId (indexed deepFinal.logs) _ :=
    ⟨Sample.documented, deployed, deep_run, indexes_indexed _, .refl _⟩
  refine ⟨deep_run, indexes_indexed _, _, decodeLogs_ok chain.named, fun entry projected => ?_⟩
  have store : storeAt deepEntries (dayEnd 0 1000) = deepFinal.store := by
    rw [run_store deployed deep_run]
    rfl
  have tabled := tabled_of_entry chain projected 0 (by decide) Sample.first
  rw [store] at tabled
  have depth : (deepFinal.store.volumes Sample.first).depth = 42 := by decide
  have unlisted : ¬ Tabled 42 := by decide
  rw [depth] at tabled
  exact unlisted (tabled (by decide))

theorem entry_iff_tabled_sample :
    ∃ decoded, decodeLogs Sample.deployment sampleDeployment.deploymentId
        (indexed Sample.final.logs) = .ok decoded ∧
      ∃ entry, projectEntry sampleDeployment (RowLog.fromRows decoded) [] 100 1000 = .ok entry := by
  obtain ⟨decoded, decodes, iff⟩ := entry_iff_tabled Sample.documented Sample.deployed
    (Sample.run fun _ => .inl rfl) (indexes_indexed _) sampleDeployment (Nat.le_refl 1000)
    (Nat.le_refl 1000) [] 100
  obtain ⟨entry, projected, _⟩ :=
    (iff decoded (.refl _)).mpr fun day _ => storeAt_tabled sample_tabled _
  exact ⟨decoded, decodes, entry, projected⟩

end SwarmVolumes.Guarantees.IndexerTotality
