import SwarmVolumes.Source.Published.Sample

/-!
# The published artifact over sequences of syncs

Entries are merged by address and pointers by name. Every file a sequence of syncs leaves
has one entry for an address and pointers that name a deployment of their own network.
Labels are unique as long as no sync moves one to another address and leaves the entry at
the old one (`published_sound_iff`).
-/
namespace SwarmVolumes.Guarantees.PublishedArtifact
open Library
open Source.Fields Source.Published

variable {F : Type} {floats : Floats F} {lower : String → String}

/-- The network a label is of. -/
def networkOf (label : String) : String := String.ofList (label.toList.takeWhile fun c => c ≠ '-')

/-- One entry for an address, and every pointer names an entry of its network. -/
structure Filed (lower : String → String) (a : Artifact F) : Prop where
  distinct : (a.deployments.map (entryKey lower)).Nodup
  home : ∀ pointer ∈ a.latest.val,
    ∃ e ∈ a.deployments, e.label = pointer.2 ∧ networkOf e.label = pointer.1

/-- What the schema promises of the file. -/
structure Sound (lower : String → String) (a : Artifact F) : Prop extends Filed lower a where
  unique : (a.deployments.map ArtifactEntry.label).Nodup

/-- The file is read, and what it holds is sound. -/
def FileSound (floats : Floats F) (lower : String → String) (file : Option (List Char)) : Prop :=
  ∃ existing, loadExisting floats file = .ok existing ∧ ∀ a ∈ existing, Sound lower a

/-- Every entry with the label of a deployment to sync, the last of those at its address, is
at the address of one of them. -/
def Stays (lower : String → String) (existing : List (ArtifactEntry F)) (targets : List DeploymentSpec) :
    Prop :=
  ∀ before target after, targets = before ++ target :: after →
    (∀ other ∈ after, specKey lower other ≠ specKey lower target) →
    ∀ e ∈ existing, e.label = target.label → ∃ other ∈ targets, specKey lower other = entryKey lower e

/-- The entries a sync starts from. -/
def entriesOf (existing : Option (Artifact F)) : List (ArtifactEntry F) :=
  (existing.map Artifact.deployments).getD []

/-- A run that writes moves no label away from an entry it keeps. -/
def StaysPut (floats : Floats F) (lower : String → String) (file : Option (List Char))
    (run : Run F) : Prop :=
  ∀ text, cmdSync floats lower file run = .ok text →
    ∀ reg targets, plan lower run = .ok (reg, targets) →
      ∀ existing, loadExisting floats file = .ok existing → Stays lower (entriesOf existing) targets

/-! ## Labels -/

theorem lowerOrDigit_ne_dash {c : Char} (ok : lowerOrDigit c || c = '_') : c ≠ '-' := by
  rintro rfl
  exact absurd ok (by decide)

theorem networkName_no_dash {network : String} (named : networkName network = true) :
    ∀ c ∈ network.toList, c ≠ '-' := by
  unfold networkName at named
  split at named
  · cases named
  · rename_i c cs spelled
    rw [Bool.and_eq_true] at named
    rw [spelled]
    refine List.forall_mem_cons.mpr ⟨lowerOrDigit_ne_dash (by simp [named.1]), fun c member => ?_⟩
    exact lowerOrDigit_ne_dash (List.all_eq_true.mp named.2 c member)

/-- The network of a deployment's label is the deployment's. -/
theorem networkOf_label (spec : DeploymentSpec) : networkOf spec.label = spec.network := by
  have plain := networkName_no_dash spec.named
  have label : spec.label.toList = spec.network.toList ++ '-' :: spec.registryVersion.toList := by
    rw [DeploymentSpec.label, deploymentLabel]
    simp
  rw [networkOf, label, List.takeWhile_append_of_pos (by simpa using plain), List.takeWhile_cons_of_neg
    (by simp), List.append_nil, String.ofList_toList]

/-- A pointer of a registry names the label of a deployment of its network. -/
theorem networkOf_pointer (reg : Registry) {pointer : String × String}
    (member : pointer ∈ reg.latest.val) : networkOf pointer.2 = pointer.1 := by
  have points := reg.home pointer member
  unfold PointsHome at points
  cases found : (byLabel reg.deployments).get? pointer.2 with
  | none =>
    rw [found] at points
    cases points
  | some target =>
    rw [found] at points
    have filed := (Dict.mem_iff_get? (Dict.nodup_ofList _)).mpr found
    obtain ⟨spec, _, same⟩ := List.mem_map.mp (Dict.mem_ofList filed)
    have label : spec.label = pointer.2 := congrArg Prod.fst same
    have own : spec = target := congrArg Prod.snd same
    rw [← label, networkOf_label, own]
    exact Option.some.inj points

/-- The deployments a run syncs have labels of their own. -/
theorem targets_labels {run : Run F} {reg : Registry} {targets : List DeploymentSpec}
    (planned : plan lower run = .ok (reg, targets)) : (targets.map DeploymentSpec.label).Nodup := by
  obtain ⟨reg', _, planned⟩ := bind_success planned
  obtain ⟨chosen, _, planned⟩ := bind_success planned
  obtain ⟨chainId, _, planned⟩ := bind_success planned
  obtain ⟨targets', picked, planned⟩ := bind_success planned
  split at planned
  · cases planned
    unfold targetsOn at picked
    split at picked
    · split at picked
      · cases picked
        exact List.nodup_singleton _
      · cases picked
    · dsimp only at picked
      split at picked
      · cases picked
      · cases picked
        exact reg.unique.sublist (List.filter_sublist.map _)
  · cases planned

/-! ## One sync -/

theorem mem_overridden {prior own : Map String} {pointer : String × String}
    (member : pointer ∈ overridden prior own) : pointer ∈ prior.val ∨ pointer ∈ own.val := by
  unfold overridden at member
  generalize own.val = pointers at member ⊢
  induction pointers using List.reverseRecOn with
  | nil => exact .inl member
  | append_singleton pointers last ih =>
    rw [List.foldl_append] at member
    rcases Dict.mem_set member with old | rfl
    · exact (ih old).imp id (List.mem_append_left _)
    · exact .inr (List.mem_append_right _ (List.mem_singleton_self _))

theorem merged_filed {existing : Option (Artifact F)} (filed : ∀ a ∈ existing, Filed lower a)
    (reg : Registry) (now : DateTime) (entries : List (ArtifactEntry F)) :
    Filed lower (merged lower reg now existing entries) := by
  refine ⟨mergeEntries_distinct _ _, fun pointer member => ?_⟩
  obtain ⟨member, named⟩ := List.mem_filter.mp member
  obtain ⟨e, listed, label⟩ := List.mem_map.mp (of_decide_eq_true named)
  refine ⟨e, listed, label, label ▸ ?_⟩
  rcases mem_overridden member with prior | own
  · cases existing with
    | none => cases prior
    | some a =>
      obtain ⟨e', _, label', network⟩ := (filed a rfl).home pointer prior
      rw [← label', network]
  · exact networkOf_pointer reg own

theorem written_filed {a : Artifact F} (filed : Filed lower a) : Filed lower a.written := by
  refine ⟨?_, fun pointer member => ?_⟩
  · rw [Artifact.written, List.map_map]
    exact filed.distinct
  · obtain ⟨e, listed, named⟩ := filed.home pointer ((sortedItems_perm _).mem_iff.mp member)
    exact ⟨e.wholeSecond, List.mem_map_of_mem listed, named⟩

theorem written_unique (a : Artifact F) :
    (a.written.deployments.map ArtifactEntry.label).Nodup ↔
      (a.deployments.map ArtifactEntry.label).Nodup := by
  rw [Artifact.written, List.map_map]
  rfl

/-- When merging keeps labels unique. -/
theorem mergeEntries_unique_iff {existing entries : List (ArtifactEntry F)}
    (distinct : (existing.map (entryKey lower)).Nodup)
    (unique : (existing.map ArtifactEntry.label).Nodup)
    (own : (entries.map ArtifactEntry.label).Nodup) :
    ((mergeEntries lower existing entries).map ArtifactEntry.label).Nodup ↔
      ∀ e', lastAlike lower e' entries = some e' → ∀ e ∈ existing, e.label = e'.label →
        ∃ other ∈ entries, entryKey lower other = entryKey lower e := by
  have mem : ∀ {e : ArtifactEntry F} {es}, lastAlike lower e es = some e → e ∈ es := by
    intro e es last
    obtain ⟨before, after, rfl, _⟩ := lastAlike_eq_some.mp last
    simp
  have keyed : ((mergeEntries lower existing entries).map (entryKey lower)).Nodup :=
    mergeEntries_distinct existing entries
  constructor
  · intro labels e' last e member same
    by_contra absent
    push Not at absent
    have kept : e ∈ mergeEntries lower existing entries :=
      mem_mergeEntries.mpr (.inr ⟨lastAlike_eq_none.mpr absent, lastAlike_self distinct member⟩)
    have synced : e' ∈ mergeEntries lower existing entries := mem_mergeEntries.mpr (.inl last)
    obtain rfl := List.inj_on_of_nodup_map labels kept synced same
    exact absent e (mem last) rfl
  · intro stays
    refine (List.nodup_map_iff_inj_on keyed.of_map).mpr fun a first b second same => ?_
    have clash : ∀ {e e' : ArtifactEntry F}, lastAlike lower e' entries = some e' →
        lastAlike lower e entries = none → lastAlike lower e existing = some e → e.label ≠ e'.label := by
      intro e e' last absent kept same
      obtain ⟨other, listed, key⟩ := stays e' last e (mem kept) same
      exact lastAlike_eq_none.mp absent other listed key
    rcases mem_mergeEntries.mp first with last | ⟨absent, kept⟩ <;>
      rcases mem_mergeEntries.mp second with last' | ⟨absent', kept'⟩
    · exact List.inj_on_of_nodup_map own (mem last) (mem last') same
    · exact absurd same.symm (clash last absent' kept')
    · exact absurd same (clash last' absent kept)
    · exact List.inj_on_of_nodup_map unique (mem kept) (mem kept') same

/-- The condition, on the entries of the targets. -/
theorem stays_iff {existing : List (ArtifactEntry F)} {pairs : List (DeploymentSpec × ArtifactEntry F)}
    (agree : ∀ pair ∈ pairs,
      pair.2.label = pair.1.label ∧ entryKey lower pair.2 = specKey lower pair.1) :
    Stays lower existing (pairs.map Prod.fst) ↔
      ∀ e', lastAlike lower e' (pairs.map Prod.snd) = some e' → ∀ e ∈ existing, e.label = e'.label →
        ∃ other ∈ pairs.map Prod.snd, entryKey lower other = entryKey lower e := by
  constructor
  · intro stays e' last e member same
    obtain ⟨before, after, split, apart⟩ := lastAlike_eq_some.mp last
    obtain ⟨first, rest, rfl, _, split⟩ := List.map_eq_append_iff.mp split
    obtain ⟨pair, later, rfl, rfl, rfl⟩ := List.map_eq_cons_iff.mp split
    have within : pair ∈ first ++ pair :: later := by simp
    have apart' : ∀ other ∈ later.map Prod.fst, specKey lower other ≠ specKey lower pair.1 := by
      intro other listed
      obtain ⟨pair', member', rfl⟩ := List.mem_map.mp listed
      have key := apart pair'.2 (List.mem_map_of_mem member')
      rwa [(agree pair' (by simp [member'])).2, (agree pair within).2] at key
    obtain ⟨other, listed, key⟩ := stays (first.map Prod.fst) pair.1 (later.map Prod.fst) (by simp) apart'
      e member (same.trans (agree pair within).1)
    obtain ⟨pair', member', rfl⟩ := List.mem_map.mp listed
    exact ⟨pair'.2, List.mem_map_of_mem member', (agree pair' member').2.trans key⟩
  · intro stays before target after split apart e member same
    obtain ⟨first, rest, rfl, _, split⟩ := List.map_eq_append_iff.mp split
    obtain ⟨pair, later, rfl, rfl, rfl⟩ := List.map_eq_cons_iff.mp split
    have within : pair ∈ first ++ pair :: later := by simp
    have last : lastAlike lower pair.2 ((first ++ pair :: later).map Prod.snd) = some pair.2 := by
      refine lastAlike_eq_some.mpr ⟨first.map Prod.snd, later.map Prod.snd, by simp, ?_⟩
      intro other listed
      obtain ⟨pair', member', rfl⟩ := List.mem_map.mp listed
      rw [(agree pair' (by simp [member'])).2, (agree pair within).2]
      exact apart pair'.1 (List.mem_map_of_mem member')
    obtain ⟨other, listed, key⟩ := stays pair.2 last e member (same.trans (agree pair within).1.symm)
    obtain ⟨pair', member', rfl⟩ := List.mem_map.mp listed
    exact ⟨pair'.1, List.mem_map_of_mem member', (agree pair' member').2.symm.trans key⟩

/-- A sync that writes keeps labels unique exactly when it replaces the entries that have
the labels of its targets. -/
theorem merged_unique_iff {existing : Option (Artifact F)} (sound : ∀ a ∈ existing, Sound lower a)
    {run : Run F} {reg : Registry} {targets : List DeploymentSpec} {entries : List (ArtifactEntry F)}
    (planned : plan lower run = .ok (reg, targets)) (projected : project run targets = .ok entries) :
    ((merged lower reg run.now existing entries).deployments.map ArtifactEntry.label).Nodup ↔
      Stays lower (entriesOf existing) targets := by
  have labels := targets_labels planned
  obtain ⟨pairs, rfl, rfl, agree⟩ := @project_pairs F lower _ _ _ projected
  have old : ((entriesOf existing).map (entryKey lower)).Nodup ∧
      ((entriesOf existing).map ArtifactEntry.label).Nodup := by
    cases existing with
    | none => exact ⟨List.nodup_nil, List.nodup_nil⟩
    | some a => exact ⟨(sound a rfl).distinct, (sound a rfl).unique⟩
  have own : ((pairs.map Prod.snd).map ArtifactEntry.label).Nodup := by
    have same : (pairs.map Prod.snd).map ArtifactEntry.label =
        (pairs.map Prod.fst).map DeploymentSpec.label := by
      rw [List.map_map, List.map_map]
      exact List.map_congr_left fun pair member => (agree pair member).1
    rwa [same]
  exact (mergeEntries_unique_iff old.1 old.2 own).trans (stays_iff agree).symm

/-- What a sync leaves is sound exactly when no label it moves stays behind. -/
theorem held_sound_iff {existing : Option (Artifact F)} (sound : ∀ a ∈ existing, Sound lower a)
    (run : Run F) : (∀ a ∈ held lower existing run, Sound lower a) ↔
      ∀ artifact, published lower existing run = .ok artifact →
        ∀ reg targets, plan lower run = .ok (reg, targets) → Stays lower (entriesOf existing) targets := by
  unfold held
  cases ok : published lower existing run with
  | error e => exact ⟨fun _ _ => nofun, fun _ => sound⟩
  | ok artifact =>
    obtain ⟨reg, targets, entries, planned, projected, rfl⟩ := published_success ok
    have filed := written_filed (merged_filed (fun a member => (sound a member).toFiled) reg run.now entries)
    have unique := merged_unique_iff sound planned projected
    constructor
    · intro all _ _ reg' targets' planned'
      rw [planned] at planned'
      cases planned'
      exact unique.mp ((written_unique _).mp (all _ rfl).unique)
    · rintro stays _ ⟨⟩
      exact ⟨filed, (written_unique _).mpr (unique.mpr (stays _ rfl reg targets planned))⟩

/-! ## Sequences of syncs -/

theorem fileSound_iff {file : Option (List Char)} {existing : Option (Artifact F)}
    (loaded : loadExisting floats file = .ok existing) :
    FileSound floats lower file ↔ ∀ a ∈ existing, Sound lower a := by
  rw [FileSound, loaded]
  constructor
  · rintro ⟨_, ⟨⟩, sound⟩
    exact sound
  · exact fun sound => ⟨existing, rfl, sound⟩

theorem staysPut_iff {file : Option (List Char)} {existing : Option (Artifact F)}
    (loaded : loadExisting floats file = .ok existing) (run : Run F) :
    StaysPut floats lower file run ↔
      ∀ artifact, published lower existing run = .ok artifact →
        ∀ reg targets, plan lower run = .ok (reg, targets) → Stays lower (entriesOf existing) targets := by
  rw [StaysPut, cmdSync_eq loaded, loaded]
  constructor
  · intro stays artifact ok reg targets planned
    rw [ok] at stays
    exact stays _ rfl reg targets planned existing rfl
  · rintro stays text ok reg targets planned _ ⟨⟩
    obtain ⟨artifact, ok, _⟩ := map_success ok
    exact stays artifact ok reg targets planned

/-- One sync of the file. -/
theorem leave_sound_iff (documented : floats.Documented) {file : Option (List Char)}
    (sound : FileSound floats lower file) (run : Run F) :
    FileSound floats lower (leave floats lower file run) ↔ StaysPut floats lower file run := by
  obtain ⟨existing, loaded, sound⟩ := sound
  rw [fileSound_iff (loadExisting_leave documented loaded run), staysPut_iff loaded]
  exact held_sound_iff sound run

theorem afterRuns_sound_iff (documented : floats.Documented) {file : Option (List Char)}
    (sound : FileSound floats lower file) (runs : List (Run F)) :
    (∀ earlier, earlier <+: runs → FileSound floats lower (afterRuns floats lower file earlier)) ↔
      ∀ earlier run, earlier ++ [run] <+: runs →
        StaysPut floats lower (afterRuns floats lower file earlier) run := by
  induction runs generalizing file with
  | nil =>
    constructor
    · intro _ earlier run within
      exact absurd (List.prefix_nil.mp within) (by simp)
    · intro _ earlier within
      rw [List.prefix_nil.mp within]
      exact sound
  | cons run runs ih =>
    constructor
    · intro all earlier next within
      have first := all [run] (List.prefix_cons_iff.mpr (.inr ⟨[], rfl, List.nil_prefix⟩))
      cases earlier with
      | nil =>
        obtain ⟨rfl, _⟩ := List.cons_prefix_cons.mp within
        exact (leave_sound_iff documented sound next).mp first
      | cons run' earlier =>
        obtain ⟨rfl, rest⟩ := List.cons_prefix_cons.mp within
        refine (ih first).mp (fun earlier within => ?_) earlier next rest
        exact all (run' :: earlier) (List.cons_prefix_cons.mpr ⟨rfl, within⟩)
    · intro stays earlier within
      have first := stays [] run (List.cons_prefix_cons.mpr ⟨rfl, List.nil_prefix⟩)
      cases earlier with
      | nil => exact sound
      | cons run' earlier =>
        obtain ⟨rfl, rest⟩ := List.cons_prefix_cons.mp within
        refine (ih ((leave_sound_iff documented sound run').mpr first)).mpr
          (fun earlier next within => ?_) earlier rest
        exact stays (run' :: earlier) next (List.cons_prefix_cons.mpr ⟨rfl, within⟩)

/-- Through every sequence of syncs into one file, the file is sound at every point exactly
when no sync moves a label away from an entry it keeps. -/
theorem published_sound_iff (floats : Floats F) (documented : floats.Documented)
    (lower : String → String) (runs : List (Run F)) :
    (∀ earlier, earlier <+: runs → FileSound floats lower (afterRuns floats lower none earlier)) ↔
      ∀ earlier run, earlier ++ [run] <+: runs →
        StaysPut floats lower (afterRuns floats lower none earlier) run :=
  afterRuns_sound_iff documented ⟨none, rfl, nofun⟩ runs

theorem gnosisRun_loaded : loadExisting tenths (afterRuns tenths id none [gnosisRun firstAddress]) =
    .ok (some (gnosisArtifact firstAddress)) := by
  have unwritten : loadExisting tenths none = .ok none := rfl
  exact loadExisting_afterRuns tenths_documented unwritten [gnosisRun firstAddress]

/-- A file synced for one chain and then for another. -/
theorem published_sound_two_chains :
    FileSound tenths id (afterRuns tenths id none [gnosisRun firstAddress, sepoliaRun secondAddress]) := by
  refine (published_sound_iff tenths tenths_documented id
    [gnosisRun firstAddress, sepoliaRun secondAddress]).mpr ?_ _ (List.prefix_refl _)
  intro earlier run within
  rcases earlier with _ | ⟨first, _ | ⟨second, rest⟩⟩
  · rintro text _ reg targets _ existing ⟨⟩ before target after _ _ e ⟨⟩
  · obtain ⟨rfl, rest⟩ := List.cons_prefix_cons.mp within
    obtain ⟨rfl, _⟩ := List.cons_prefix_cons.mp rest
    intro text _ reg targets planned existing loaded before target after split _ e member same
    rw [gnosisRun_loaded] at loaded
    cases loaded
    have labels : ((plan id (sepoliaRun secondAddress)).toOption.map fun planned =>
        planned.2.map DeploymentSpec.label) = some ["sepolia-v1"] := rfl
    rw [planned] at labels
    have only : targets.map DeploymentSpec.label = ["sepolia-v1"] := Option.some.inj labels
    have listed : target.label ∈ targets.map DeploymentSpec.label :=
      List.mem_map_of_mem (by rw [split]; simp)
    rw [only, ← same, List.mem_singleton.mp member] at listed
    exact absurd listed (by decide)
  · have short := within.length_le
    simp at short

/-- Two documents that give one label two addresses leave two entries with the label. -/
theorem moved_label_twice :
    (cmdSync tenths id none (gnosisRun firstAddress)).isOk = true ∧
    (cmdSync tenths id (afterRuns tenths id none [gnosisRun firstAddress]) (gnosisRun secondAddress)).isOk = true ∧
    ¬ FileSound tenths id (afterRuns tenths id none [gnosisRun firstAddress, gnosisRun secondAddress]) := by
  have unwritten : loadExisting tenths none = .ok none := rfl
  refine ⟨by rw [cmdSync_eq unwritten]; rfl, by rw [cmdSync_eq gnosisRun_loaded]; rfl, fun sound => ?_⟩
  rw [← List.singleton_append, afterRuns_snoc] at sound
  have left := @loadExisting_leave Tenths tenths id tenths_documented _ _ gnosisRun_loaded (gnosisRun secondAddress)
  have unique := ((fileSound_iff left).mp sound _ rfl).unique
  have labels : (["gnosis-v1", "gnosis-v1"] : List String).Nodup := unique
  exact absurd labels (by decide)

end SwarmVolumes.Guarantees.PublishedArtifact
