import SwarmVolumes.Source.Published.Sample

/-!
# The wire format is lossless

An artifact is read back from its text as it was, up to the order of its pointers, and
is written again as the same text. So an entry that a sync does not target stays in
the file as it is (`wire_format_lossless`).
-/
namespace SwarmVolumes.Guarantees.WireFormat
open Library
open Source.Fields Source.Published

variable {F : Type} {floats : Floats F} {lower : String → String}

/-- The timestamps of an artifact are whole seconds. -/
def WholeSeconds (a : Artifact F) : Prop :=
  a.generatedAt.microsecond = 0 ∧
    ∀ e ∈ a.deployments, e.genesisTs.microsecond = 0 ∧ e.asOf.ts.microsecond = 0

/-- Python's `==` of artifacts, which does not see the order of a `dict`. -/
def Equals (a b : Artifact F) : Prop :=
  a.schemaVersion = b.schemaVersion ∧ a.generatedAt = b.generatedAt ∧
    a.deployments = b.deployments ∧
    ∀ network, a.latest.val.get? network = b.latest.val.get? network

/-- No run of a sequence targets a deployment with this key. -/
def Untargeted (lower : String → String) (key : Int × String) (runs : List (Run F)) : Prop :=
  ∀ run ∈ runs, ∀ reg targets, plan lower run = .ok (reg, targets) →
    ∀ target ∈ targets, specKey lower target ≠ key

theorem wholeSecond_self {dt : DateTime} (whole : dt.microsecond = 0) : dt.wholeSecond = dt := by
  obtain ⟨date, hour, minute, second, microsecond, bounded⟩ := dt
  cases whole
  rfl

theorem entry_wholeSecond_self {e : ArtifactEntry F}
    (whole : e.genesisTs.microsecond = 0 ∧ e.asOf.ts.microsecond = 0) : e.wholeSecond = e := by
  have genesis := wholeSecond_self whole.1
  have asOf := wholeSecond_self whole.2
  rw [ArtifactEntry.wholeSecond, AsOf.wholeSecond, genesis, asOf]

/-- A reordered map holds the same. -/
theorem get?_sortedMap (d : Map String) (k : String) : (sortedMap d).val.get? k = d.val.get? k := by
  refine Option.ext fun a => ?_
  rw [← Dict.mem_iff_get? (sortedMap d).property, ← Dict.mem_iff_get? d.property]
  exact (sortedItems_perm d.val).mem_iff

/-- What is written of an artifact with whole seconds is the artifact. -/
theorem written_equals {a : Artifact F} (whole : WholeSeconds a) : Equals a.written a := by
  refine ⟨rfl, wholeSecond_self whole.1, ?_, get?_sortedMap a.latest⟩
  have same : a.deployments.map ArtifactEntry.wholeSecond = a.deployments.map id :=
    List.map_congr_left fun e member => entry_wholeSecond_self (whole.2 e member)
  exact same.trans (List.map_id _)

/-- An artifact as a sync leaves it: keys apart, entries as they are read. -/
def Filed (lower : String → String) (existing : Option (Artifact F)) : Prop :=
  ∀ a ∈ existing, (a.deployments.map (entryKey lower)).Nodup ∧
    ∀ e ∈ a.deployments, e.wholeSecond = e

theorem Filed.none (lower : String → String) : Filed lower (Option.none : Option (Artifact F)) := by
  rintro _ ⟨⟩

theorem held_filed {existing : Option (Artifact F)} (filed : Filed lower existing) (run : Run F) :
    Filed lower (held lower existing run) := by
  unfold held
  cases ok : published lower existing run with
  | error e => exact filed
  | ok artifact =>
    obtain ⟨reg, targets, entries, _, _, rfl⟩ := published_success ok
    rintro _ ⟨⟩
    refine ⟨?_, fun e member => ?_⟩
    · rw [Artifact.written, List.map_map]
      exact mergeEntries_distinct ((existing.map Artifact.deployments).getD []) entries
    · obtain ⟨e, _, rfl⟩ := List.mem_map.mp member
      rfl

/-- A run that does not target an entry's deployment leaves the entry. -/
theorem held_keeps {a : Artifact F} (filed : Filed lower (some a)) {e : ArtifactEntry F}
    (member : e ∈ a.deployments) {run : Run F}
    (untargeted : Untargeted lower (entryKey lower e) [run]) :
    ∃ a', held lower (some a) run = some a' ∧ e ∈ a'.deployments := by
  obtain ⟨distinct, whole⟩ := filed a rfl
  unfold held
  cases ok : published lower (some a) run with
  | error _ => exact ⟨a, rfl, member⟩
  | ok artifact =>
    obtain ⟨reg, targets, entries, planned, projected, rfl⟩ := published_success ok
    obtain ⟨pairs, rfl, rfl, agree⟩ := @project_pairs F lower run targets entries projected
    have absent : lastAlike lower e (pairs.map Prod.snd) = none := by
      refine lastAlike_eq_none.mpr fun b listed => ?_
      obtain ⟨pair, within, rfl⟩ := List.mem_map.mp listed
      rw [(agree pair within).2]
      exact untargeted run (List.mem_singleton_self _) reg _ planned _ (List.mem_map_of_mem within)
    have kept : e ∈ mergeEntries lower a.deployments (pairs.map Prod.snd) :=
      mem_mergeEntries.mpr (.inr ⟨absent, lastAlike_self distinct member⟩)
    refine ⟨_, rfl, ?_⟩
    have read := List.mem_map_of_mem (f := ArtifactEntry.wholeSecond) kept
    rwa [whole e member] at read

theorem foldl_held_filed {existing : Option (Artifact F)} (filed : Filed lower existing)
    (runs : List (Run F)) : Filed lower (runs.foldl (held lower) existing) := by
  induction runs generalizing existing with
  | nil => exact filed
  | cons run runs ih => exact ih (held_filed filed run)

theorem foldl_held_keeps {a : Artifact F} (filed : Filed lower (some a)) {e : ArtifactEntry F}
    (member : e ∈ a.deployments) {runs : List (Run F)}
    (untargeted : Untargeted lower (entryKey lower e) runs) :
    ∃ a', runs.foldl (held lower) (some a) = some a' ∧ e ∈ a'.deployments := by
  induction runs generalizing a with
  | nil => exact ⟨a, rfl, member⟩
  | cons run runs ih =>
    obtain ⟨first, rest⟩ := List.forall_mem_cons.mp untargeted
    obtain ⟨a', left, member⟩ := held_keeps filed member (List.forall_mem_singleton.mpr first)
    rw [List.foldl_cons, left]
    exact ih (left ▸ held_filed filed run) member rest

/-- The text of an artifact is read back as the artifact, text is written again as it was,
and an entry stays in the file as it is through runs that do not target it. -/
theorem wire_format_lossless (floats : Floats F) (documented : floats.Documented)
    (lower : String → String) :
    (∀ a : Artifact F, WholeSeconds a →
      ∃ b, artifactFromJson floats (artifactToJson floats a) = .ok b ∧ Equals b a) ∧
    (∀ a : Artifact F, ∃ b, artifactFromJson floats (artifactToJson floats a) = .ok b ∧
      artifactToJson floats b = artifactToJson floats a) ∧
    (∀ (earlier later : List (Run F)) (a : Artifact F),
      loadExisting floats (afterRuns floats lower none earlier) = .ok (some a) →
      ∀ e ∈ a.deployments, Untargeted lower (entryKey lower e) later →
        ∃ a', loadExisting floats (afterRuns floats lower none (earlier ++ later)) = .ok (some a') ∧
          e ∈ a'.deployments) := by
  have read : ∀ a : Artifact F, artifactFromJson floats (artifactToJson floats a) = .ok a.written := by
    intro a
    have all := @artifactFromJson_artifactToJson F floats documented a [] nofun
    rwa [List.append_nil] at all
  refine ⟨fun a whole => ⟨a.written, read a, written_equals whole⟩, fun a => ⟨a.written, read a, ?_⟩, ?_⟩
  · rw [artifactToJson, artifactToDict_written, artifactToJson]
  · intro earlier later a loaded e member untargeted
    have first : loadExisting floats (none : Option (List Char)) = .ok none := rfl
    rw [loadExisting_afterRuns documented first earlier] at loaded
    rw [loadExisting_afterRuns documented first, List.foldl_append, Except.ok.inj loaded]
    have filed : Filed lower (some a) := by
      rw [← Except.ok.inj loaded]
      exact foldl_held_filed (Filed.none lower) earlier
    obtain ⟨a', held, kept⟩ := foldl_held_keeps filed member untargeted
    exact ⟨a', congrArg Except.ok held, kept⟩

/-- The artifact of a first run, read back, and its entry after a run over another chain. -/
theorem wire_format_lossless_tenths :
    (∃ b, artifactFromJson tenths (artifactToJson tenths (gnosisArtifact firstAddress)) = .ok b ∧
      Equals b (gnosisArtifact firstAddress)) ∧
    ∃ a', loadExisting tenths (afterRuns tenths id none ([gnosisRun firstAddress] ++ [sepoliaRun secondAddress])) =
      .ok (some a') ∧ sampleProjection.entry (gnosisSpec firstAddress) ∈ a'.deployments := by
  obtain ⟨read, _, carried⟩ := wire_format_lossless tenths tenths_documented id
  refine ⟨read _ ⟨rfl, List.forall_mem_singleton.mpr ⟨rfl, rfl⟩⟩, ?_⟩
  have unwritten : loadExisting tenths none = .ok none := rfl
  have loaded : loadExisting tenths (afterRuns tenths id none [gnosisRun firstAddress]) =
      .ok (some (gnosisArtifact firstAddress)) :=
    loadExisting_afterRuns tenths_documented unwritten [gnosisRun firstAddress]
  refine carried [gnosisRun firstAddress] [sepoliaRun secondAddress] _ loaded _ (List.mem_singleton_self _) ?_
  have keys : ((plan id (sepoliaRun secondAddress)).toOption.map fun planned =>
      planned.2.map (specKey id)) = some [(11155111, secondAddress)] := rfl
  refine List.forall_mem_singleton.mpr fun reg targets planned target member same => ?_
  rw [planned] at keys
  have only : targets.map (specKey id) = [(11155111, secondAddress)] := Option.some.inj keys
  have listed := List.mem_map_of_mem (f := specKey id) member
  rw [only, same] at listed
  exact absurd listed (by decide)

end SwarmVolumes.Guarantees.WireFormat
