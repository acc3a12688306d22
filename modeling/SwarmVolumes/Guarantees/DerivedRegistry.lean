import Mathlib
import SwarmVolumes.Guarantees.PublishedArtifact
import SwarmVolumes.Source.DeriveDeployments

/-!
# The registry follows the deployment records

A derivation only appends deployments: those that a record of a supported version names,
at an address not registered before. A network's pointer moves to a registered deployment
and is kept otherwise. Deriving again changes nothing.
-/
namespace SwarmVolumes.Guarantees.DerivedRegistry
open Library
open Source.ExportDeployment (Path Tree latestFile outputFile versionedName)
open Source.Fields Source.Published Source.DeriveDeployments
open Source.Indexer (PyError orRaise)
open PublishedArtifact (networkOf networkOf_label)

variable {F : Type} {floats : Floats F} {lower : String → String} {int : Document F → Except PyError Int}
  {tree : Tree} {excluded : List String} {ids : List (Int × String)}

/-- The registry a file holds. -/
def registryOf (floats : Floats F) (text : List Char) : Except PyError Registry :=
  orRaise .valueError (Document.loads floats text) >>= Registry.fromDict

/-- A record of the tree says this. -/
def Recorded (floats : Floats F) (lower : String → String) (int : Document F → Except PyError Int)
    (tree : Tree) (fact : Fact) : Prop :=
  ∃ name, (fact.network, name) ∈ tree.keys ∧ isRecord name = true ∧
    recordFact floats lower int tree fact.network name = .ok fact

/-- Whether a derivation adds the deployment. -/
def Proposed (excluded : List String) (ids : List (Int × String)) (fact : Fact) : Prop :=
  (fact.chainId, fact.registry) ∉ ids ∧ fact.label ∉ excluded ∧ fact.registryVersion ∈ supportedVersions

instance : DecidablePred (Proposed excluded ids) := fun _ => inferInstanceAs (Decidable (_ ∧ _))

/-- The deployments a derivation adds. -/
def added (excluded : List String) (ids : List (Int × String)) (facts : List Fact) : List Spec :=
  (facts.filter (Proposed excluded ids)).map Fact.spec

/-! ## What is written is read back -/

theorem of_injective : Function.Injective Spec.of := by
  intro spec spec' same
  cases spec
  cases spec'
  simpa [Spec.of] using same

theorem optionalInt_object {d : Dict String (Document F)} {keys : List String} {key : String}
    (distinct : keys.Nodup) (keyed : d.keys = keys) (m : Option Int)
    (found : d.get? key = m.map Document.int) : optionalInt (object d) key = .ok m := by
  have dict := asDict_object (⟨d, keyed ▸ distinct⟩ : Map (Document F))
  rw [optionalInt, dict, ok_bind, found]
  cases m with
  | none => rfl
  | some n => rfl

/-- A specification, from the fields it is written with. -/
theorem fromDict_object {d : Dict String (Document F)} {keys : List String} (spec : Spec)
    (distinct : keys.Nodup) (keyed : d.keys = keys) (network : d.get? "network" = some (text spec.network))
    (registryVersion : d.get? "registry_version" = some (text spec.registryVersion))
    (chainId : d.get? "chain_id" = some (.int spec.chainId))
    (registry : d.get? "registry" = some (text spec.registry))
    (genesisBlock : d.get? "genesis_block" = spec.genesisBlock.map Document.int) :
    DeploymentSpec.fromDict (object d) =
      if named : networkName spec.network = true then
        if versionName spec.registryVersion then
          .ok ⟨spec.network, spec.registryVersion, spec.chainId, spec.registry, spec.genesisBlock, named⟩
        else .error .valueError
      else .error .valueError := by
  unfold DeploymentSpec.fromDict
  rw [read_item distinct keyed network (asText_text _), ok_bind,
    read_item distinct keyed registryVersion (asText_text _), ok_bind]
  apply dite_congr rfl _ fun _ => rfl
  intro named
  apply ite_congr rfl _ fun _ => rfl
  intro versioned
  rw [read_item distinct keyed chainId (asInt_int _), ok_bind,
    read_item distinct keyed registry (asText_text _), ok_bind,
    optionalInt_object distinct keyed spec.genesisBlock genesisBlock, ok_bind]

theorem spec_read (spec : Spec) : DeploymentSpec.fromDict (spec.toDict : Document F) =
    if named : networkName spec.network = true then
      if versionName spec.registryVersion then
        .ok ⟨spec.network, spec.registryVersion, spec.chainId, spec.registry, spec.genesisBlock, named⟩
      else .error .valueError
    else .error .valueError := by
  have four : ["network", "registry_version", "chain_id", "registry"].Nodup := by decide
  have five : ["network", "registry_version", "chain_id", "registry", "genesis_block"].Nodup := by decide
  obtain ⟨network, registryVersion, chainId, registry, genesisBlock⟩ := spec
  cases genesisBlock with
  | none => exact fromDict_object _ four rfl rfl rfl rfl rfl rfl
  | some n => exact fromDict_object _ five rfl rfl rfl rfl rfl rfl

theorem specs_of_read {specs : List Spec} {read : List DeploymentSpec}
    (ok : (specs.map Spec.toDict).mapM (DeploymentSpec.fromDict (F := F)) = .ok read) :
    read.map Spec.of = specs := by
  rw [List.mapM_map] at ok
  rw [map_of_mapM (h := id) ok, List.map_id]
  intro spec _ first own
  rw [Function.comp_apply, spec_read] at own
  split at own
  · split at own
    · cases own
      rfl
    · cases own
  · cases own

theorem registry_of_read {specs : List Spec} {latest : Dict String String} {reg : Registry}
    (distinct : latest.keys.Nodup)
    (ok : Registry.fromDict (registryToDict specs latest : Document F) = .ok reg) :
    reg.deployments.map Spec.of = specs ∧ reg.latest.val = sortedItems latest := by
  have keys : ["deployments", "latest"].Nodup := by decide
  unfold Registry.fromDict registryToDict at ok
  rw [item_object keys rfl rfl, ok_bind, asList, ok_bind,
    textMap_read (sortedMap ⟨latest, distinct⟩) keys rfl rfl] at ok
  obtain ⟨read, specs, ok⟩ := bind_success ok
  simp only [ok_bind] at ok
  split at ok
  · split at ok
    · cases ok
      exact ⟨specs_of_read specs, rfl⟩
    · cases ok
  · cases ok

/-! ## The loops -/

@[simp] theorem Fact.label_spec (fact : Fact) : fact.spec.label = fact.label := rfl

theorem register_of_proposed {fact : Fact} (proposed : Proposed excluded ids fact) (specs : List Spec) :
    register excluded ids specs fact =
      if fact.label ∈ specs.map Spec.label then .error (.labelTaken fact.label)
      else .ok (specs ++ [fact.spec]) := by
  obtain ⟨fresh, kept, supported⟩ := proposed
  simp [register, fresh, kept, supported]

theorem register_of_not_proposed {fact : Fact} (other : ¬ Proposed excluded ids fact) (specs : List Spec) :
    register excluded ids specs fact = .ok specs := by
  unfold register
  split
  · rfl
  · rename_i kept
    rw [not_or] at kept
    have unsupported : fact.registryVersion ∉ supportedVersions := by
      intro supported
      apply other
      exact ⟨kept.1, kept.2, supported⟩
    rw [if_pos unsupported]

/-- The loop over the facts stops at a label that is taken, and only there. -/
theorem foldlM_register_iff {facts : List Fact} {specs specs' : List Spec}
    (unique : (specs.map Spec.label).Nodup) :
    facts.foldlM (register excluded ids) specs = .ok specs' ↔
      specs' = specs ++ added excluded ids facts ∧ (specs'.map Spec.label).Nodup := by
  induction facts generalizing specs with
  | nil =>
    have start : ([] : List Fact).foldlM (register excluded ids) specs = .ok specs' ↔ specs' = specs := by
      change (Except.ok specs : Except Failure _) = _ ↔ _
      simp [eq_comm]
    rw [start, added, List.filter_nil, List.map_nil, List.append_nil]
    constructor
    · rintro rfl
      exact ⟨rfl, unique⟩
    · exact And.left
  | cons fact facts ih =>
    rw [List.foldlM_cons]
    by_cases proposed : Proposed excluded ids fact
    · have first : added excluded ids (fact :: facts) = fact.spec :: added excluded ids facts := by
        simp [added, proposed]
      rw [register_of_proposed proposed, first]
      split
      · rename_i taken
        constructor
        · intro ok
          cases ok
        · rintro ⟨rfl, distinct⟩
          rw [List.map_append, List.map_cons] at distinct
          have apart := (List.nodup_append.mp distinct).2.2 _ taken _ (List.mem_cons_self ..)
          exact absurd rfl apart
      · rename_i free
        have unique' : ((specs ++ [fact.spec]).map Spec.label).Nodup := by
          rw [List.map_append]
          apply unique.append (List.nodup_singleton _)
          simpa [List.Disjoint, Fact.label_spec] using free
        rw [ok_bind, ih unique', List.append_assoc, List.singleton_append]
    · have first : added excluded ids (fact :: facts) = added excluded ids facts := by
        simp [added, proposed]
      rw [register_of_not_proposed proposed, ok_bind, ih unique, first]

theorem point_cases (labels : List String) (acc : Dict String String × Bool) (pointer : String × String) :
    point labels acc pointer = acc ∧ (acc.1.get? pointer.1 = some (deploymentLabel pointer.1 pointer.2) ∨
      deploymentLabel pointer.1 pointer.2 ∉ labels) ∨
    point labels acc pointer = (acc.1.set pointer.1 (deploymentLabel pointer.1 pointer.2), true) ∧
      deploymentLabel pointer.1 pointer.2 ∈ labels := by
  unfold point
  dsimp only
  split
  · exact .inl ⟨rfl, .inl ‹_›⟩
  · split
    · exact .inl ⟨rfl, .inr ‹_›⟩
    · exact .inr ⟨rfl, not_not.mp ‹_›⟩

theorem get?_point (labels : List String) (acc : Dict String String × Bool) (pointer : String × String)
    (network : String) : (point labels acc pointer).1.get? network =
      if pointer.1 = network ∧ deploymentLabel pointer.1 pointer.2 ∈ labels then
        some (deploymentLabel pointer.1 pointer.2)
      else acc.1.get? network := by
  rcases point_cases labels acc pointer with ⟨same, already | unregistered⟩ | ⟨moved, registered⟩
  · rw [same]
    split
    · rename_i own
      rw [← own.1, already]
    · rfl
  · simp [same, unregistered]
  · simp [moved, registered, Dict.get?_set, eq_comm]

/-- What the loop over the pointers makes of a network's pointer. -/
theorem get?_foldl_point (labels : List String) {pointers : Dict String String}
    (distinct : pointers.keys.Nodup) (acc : Dict String String × Bool) (network : String) :
    (pointers.foldl (point labels) acc).1.get? network =
      (((pointers.get? network).map (deploymentLabel network)).filter (· ∈ labels)).or
        (acc.1.get? network) := by
  induction pointers generalizing acc with
  | nil => rfl
  | cons pointer pointers ih =>
    obtain ⟨fresh, rest⟩ := List.nodup_cons.mp distinct
    rw [List.foldl_cons, ih rest, get?_point]
    by_cases own : pointer.1 = network
    · have last : Dict.get? pointers network = none := by
        rw [Option.eq_none_iff_forall_ne_some]
        intro version found
        rw [own] at fresh
        exact fresh (List.mem_map_of_mem (Dict.mem_of_get? found))
      have here : Dict.get? (pointer :: pointers) network = some pointer.2 := if_pos own
      rw [here, last, own]
      by_cases registered : deploymentLabel network pointer.2 ∈ labels <;>
        simp [registered, Option.filter_some]
    · simp [Dict.get?, own]

theorem nodup_foldl_point (labels : List String) (pointers : Dict String String)
    (acc : Dict String String × Bool) (distinct : acc.1.keys.Nodup) :
    (pointers.foldl (point labels) acc).1.keys.Nodup := by
  induction pointers generalizing acc with
  | nil => exact distinct
  | cons pointer pointers ih =>
    apply ih
    rcases point_cases labels acc pointer with ⟨same, _⟩ | ⟨moved, _⟩
    · rwa [same]
    · rw [moved]
      exact Dict.nodup_update _ distinct

/-- The loop says whether it moved a pointer. -/
theorem foldl_point_changed (labels : List String) (pointers : Dict String String)
    (acc : Dict String String × Bool) :
    pointers.foldl (point labels) acc = acc ∨ (pointers.foldl (point labels) acc).2 = true := by
  induction pointers generalizing acc with
  | nil => exact .inl rfl
  | cons pointer pointers ih =>
    rw [List.foldl_cons]
    rcases point_cases labels acc pointer with ⟨same, _⟩ | ⟨moved, _⟩
    · rw [same]
      exact ih acc
    · rw [moved]
      rcases ih (acc.1.set pointer.1 (deploymentLabel pointer.1 pointer.2), true) with kept | changed
      · rw [kept]
        exact .inr rfl
      · exact .inr changed

theorem foldl_point_quiet {labels : List String} {pointers : Dict String String}
    {acc : Dict String String × Bool}
    (settled : ∀ pointer ∈ pointers, deploymentLabel pointer.1 pointer.2 ∈ labels →
      acc.1.get? pointer.1 = some (deploymentLabel pointer.1 pointer.2)) :
    pointers.foldl (point labels) acc = acc := by
  induction pointers with
  | nil => rfl
  | cons pointer pointers ih =>
    have same : point labels acc pointer = acc := by
      unfold point
      by_cases registered : deploymentLabel pointer.1 pointer.2 ∈ labels
      · simp [settled pointer (List.mem_cons_self ..) registered]
      · simp [registered]
    rw [List.foldl_cons, same]
    exact ih fun pointer member => settled pointer (List.mem_cons_of_mem _ member)

/-! ## The records -/

theorem mem_networks {network : String} : network ∈ networks tree ↔ ∃ name, (network, name) ∈ tree.keys := by
  simp [networks]

theorem mem_recordFiles {network name : String} :
    name ∈ recordFiles tree network ↔ (network, name) ∈ tree.keys ∧ isRecord name = true := by
  simp [recordFiles]

theorem recordFact_success {network name : String} {fact : Fact}
    (ok : recordFact floats lower int tree network name = .ok fact) :
    fact.network = network ∧ stem name = versionedName contract fact.registryVersion ∧
      ∃ address, fact.registry = lower address := by
  obtain ⟨doc, _, ok⟩ := bind_success ok
  obtain ⟨version, _, ok⟩ := bind_success ok
  split at ok
  · cases ok
  · rename_i named
    obtain ⟨chainId, _, ok⟩ := bind_success ok
    obtain ⟨address, _, ok⟩ := bind_success ok
    obtain ⟨genesisBlock, _, ok⟩ := bind_success ok
    cases ok
    exact ⟨rfl, not_not.mp named, address, rfl⟩

theorem pointer_success {network : String} {pointers : List (String × String)}
    (ok : pointer floats tree network = .ok pointers) :
    pointers = [] ∨ network ∈ networks tree ∧ ∃ version, pointers = [(network, version)] := by
  unfold pointer at ok
  split at ok
  · cases ok
    exact .inl rfl
  · rename_i text found
    obtain ⟨doc, _, ok⟩ := bind_success ok
    obtain ⟨version, _, ok⟩ := bind_success ok
    cases ok
    have filed := Dict.mem_of_get? found
    exact .inr ⟨mem_networks.mpr ⟨_, List.mem_map_of_mem filed⟩, version, rfl⟩

theorem networkFacts_success {network : String} {found : List Fact × List (String × String)}
    (ok : networkFacts floats lower int tree network = .ok found) :
    (recordFiles tree network).mapM (recordFact floats lower int tree network) = .ok found.1 ∧
      pointer floats tree network = .ok found.2 := by
  obtain ⟨facts, read, ok⟩ := bind_success ok
  obtain ⟨pointers, pointed, ok⟩ := bind_success ok
  cases ok
  exact ⟨read, pointed⟩

/-- The facts are what the records say, and every record is read. -/
theorem recordFacts_facts {facts : List Fact} {pointers : Dict String String}
    (ok : recordFacts floats lower int tree = .ok (facts, pointers)) :
    (∀ fact, fact ∈ facts ↔ Recorded floats lower int tree fact) ∧
    ∀ path ∈ tree.keys, isRecord path.2 = true →
      ∃ fact, recordFact floats lower int tree path.1 path.2 = .ok fact := by
  obtain ⟨found, all, ok⟩ := bind_success ok
  cases ok
  constructor
  · intro fact
    rw [List.mem_flatMap]
    constructor
    · rintro ⟨entry, listed, member⟩
      obtain ⟨network, _, own⟩ := (mem_mapM all).mp listed
      obtain ⟨name, filed, read⟩ := (mem_mapM (networkFacts_success own).1).mp member
      obtain rfl := (recordFact_success read).1
      obtain ⟨filed, record⟩ := mem_recordFiles.mp filed
      exact ⟨name, filed, record, read⟩
    · rintro ⟨name, filed, record, read⟩
      obtain ⟨entry, own⟩ := mapM_success all fact.network (mem_networks.mpr ⟨name, filed⟩)
      refine ⟨entry, (mem_mapM all).mpr ⟨_, mem_networks.mpr ⟨name, filed⟩, own⟩, ?_⟩
      exact (mem_mapM (networkFacts_success own).1).mpr ⟨name, mem_recordFiles.mpr ⟨filed, record⟩, read⟩
  · intro path filed record
    obtain ⟨entry, own⟩ := mapM_success all path.1 (mem_networks.mpr ⟨path.2, filed⟩)
    exact mapM_success (networkFacts_success own).1 path.2 (mem_recordFiles.mpr ⟨filed, record⟩)

/-- A network has one pointer at most, the one of its own file. -/
theorem recordFacts_pointers {facts : List Fact} {pointers : Dict String String}
    (ok : recordFacts floats lower int tree = .ok (facts, pointers)) :
    pointers.keys.Nodup ∧ ∀ network version, pointers.get? network = some version ↔
      pointer floats tree network = .ok [(network, version)] := by
  obtain ⟨found, all, ok⟩ := bind_success ok
  cases ok
  have sub : ∀ {ns : List String} {found : List (List Fact × List (String × String))},
      List.Forall₂ (fun n f => networkFacts floats lower int tree n = .ok f) ns found →
        (Dict.keys (found.flatMap Prod.snd)).Sublist ns := by
    intro ns found all
    induction all with
    | nil => exact List.Sublist.slnil
    | @cons network entry ns found own rest ih =>
      rw [List.flatMap_cons, Dict.keys, List.map_append]
      rcases pointer_success (networkFacts_success own).2 with none | ⟨_, version, one⟩
      · rw [none]
        exact ih.cons _
      · rw [one]
        exact ih.cons_cons _
  have distinct : (Dict.keys (found.flatMap Prod.snd)).Nodup := by
    apply List.Nodup.sublist (sub (mapM_forall₂ all))
    exact (List.mergeSort_perm ..).nodup_iff.mpr (List.nodup_dedup _)
  refine ⟨distinct, fun network version => ?_⟩
  rw [← Dict.mem_iff_get? distinct, List.mem_flatMap]
  constructor
  · rintro ⟨entry, listed, member⟩
    obtain ⟨network', _, own⟩ := (mem_mapM all).mp listed
    have pointed := (networkFacts_success own).2
    rcases pointer_success pointed with none | ⟨_, version', one⟩
    · rw [none] at member
      cases member
    · rw [one] at member
      cases List.mem_singleton.mp member
      rw [pointed, one]
  · intro pointed
    rcases pointer_success pointed with none | ⟨listed, _⟩
    · cases none
    · obtain ⟨entry, own⟩ := mapM_success all network listed
      refine ⟨entry, (mem_mapM all).mpr ⟨network, listed, own⟩, ?_⟩
      have same := (networkFacts_success own).2
      rw [pointed] at same
      rw [← Except.ok.inj same]
      exact List.mem_singleton_self _

/-! ## A derivation -/

/-- The labels of a registry. -/
def labelsOf (reg : Registry) : List String := reg.deployments.map DeploymentSpec.label

theorem labelsOf_eq (reg : Registry) : labelsOf reg = (reg.deployments.map Spec.of).map Spec.label := by
  rw [labelsOf, List.map_map]
  rfl

/-- What a derivation makes of a registry, from the facts and the pointers it found. -/
structure Next (lower : String → String) (excluded : List String) (facts : List Fact)
    (pointers : Dict String String) (reg reg' : Registry) : Prop where
  deployments : reg'.deployments.map Spec.of =
    reg.deployments.map Spec.of ++ added excluded (registeredIds lower reg) facts
  latest : ∀ network, reg'.latest.val.get? network =
    (((pointers.get? network).map (deploymentLabel network)).filter (· ∈ labelsOf reg')).or
      (reg.latest.val.get? network)

theorem get?_sortedItems {d : Dict String String} (distinct : d.keys.Nodup) (network : String) :
    (sortedItems d).get? network = d.get? network := by
  have sorted := ((sortedItems_perm d).map Prod.fst).nodup_iff.mpr distinct
  apply Option.ext
  intro label
  rw [← Dict.mem_iff_get? sorted, ← Dict.mem_iff_get? distinct]
  exact (sortedItems_perm d).mem_iff

/-- What is proposed, where anything changes, is the document of the next registry. -/
theorem propose_success {reg : Registry} {facts : List Fact} {pointers : Dict String String}
    {proposed : Option (Document F)} (distinct : pointers.keys.Nodup)
    (ok : propose lower reg facts pointers excluded = .ok proposed) :
    ∃ reg', Next lower excluded facts pointers reg reg' ∧
      (proposed = none ∧ reg' = reg ∨ ∃ doc, proposed = some doc ∧ Registry.fromDict doc = .ok reg') := by
  have unique : ((reg.deployments.map Spec.of).map Spec.label).Nodup := by
    rw [← labelsOf_eq]
    exact reg.unique
  obtain ⟨specs, registered, ok⟩ := bind_success ok
  obtain ⟨all, _⟩ := (foldlM_register_iff unique).mp registered
  generalize grown : decide (specs.length ≠ (reg.deployments.map Spec.of).length) = grew at ok
  have latest := get?_foldl_point (specs.map Spec.label) distinct (reg.latest.val, grew)
  have kept := nodup_foldl_point (specs.map Spec.label) pointers (reg.latest.val, grew) reg.latest.property
  dsimp only at ok
  split at ok
  · obtain ⟨reg', read, ok⟩ := bind_success ok
    cases ok
    have read' := mapError_success read
    obtain ⟨deployments, pointed⟩ := registry_of_read kept read'
    refine ⟨reg', ⟨deployments.trans all, fun network => ?_⟩, .inr ⟨_, rfl, read'⟩⟩
    rw [pointed, get?_sortedItems kept, latest, labelsOf_eq, deployments]
  · rename_i unchanged
    cases ok
    rcases foldl_point_changed (specs.map Spec.label) pointers (reg.latest.val, grew) with same | changed
    · rw [same, ← grown, all] at unchanged
      have none : added excluded (registeredIds lower reg) facts = [] := by
        simpa using unchanged
      rw [none, List.append_nil] at all
      refine ⟨reg, ⟨by rw [none, List.append_nil], fun network => ?_⟩, .inl ⟨rfl, rfl⟩⟩
      have own := latest network
      rwa [same, all, ← labelsOf_eq] at own
    · exact absurd changed unchanged

section

variable {reg reg' : Registry} {facts : List Fact} {pointers : Dict String String}

/-- The deployments registered after it. -/
theorem Next.registered (next : Next lower excluded facts pointers reg reg') :
    registeredIds lower reg' = registeredIds lower reg ++
      (added excluded (registeredIds lower reg) facts).map fun spec => (spec.chainId, lower spec.registry) := by
  have keys : ∀ reg : Registry, registeredIds lower reg =
      (reg.deployments.map Spec.of).map fun spec => (spec.chainId, lower spec.registry) := by
    intro reg
    rw [List.map_map]
    rfl
  rw [keys reg', next.deployments, List.map_append, ← keys reg]

theorem Next.complete (next : Next lower excluded facts pointers reg reg')
    (idempotent : ∀ s, lower (lower s) = lower s) {fact : Fact} (member : fact ∈ facts)
    (lowered : ∃ address, fact.registry = lower address) (kept : fact.label ∉ excluded)
    (supported : fact.registryVersion ∈ supportedVersions) :
    (fact.chainId, fact.registry) ∈ registeredIds lower reg' := by
  rw [next.registered, List.mem_append]
  by_cases before : (fact.chainId, fact.registry) ∈ registeredIds lower reg
  · exact .inl before
  · apply Or.inr
    have same : lower fact.registry = fact.registry := by
      obtain ⟨address, spelled⟩ := lowered
      rw [spelled, idempotent]
    have proposed : fact.spec ∈ added excluded (registeredIds lower reg) facts := by
      apply List.mem_map_of_mem
      simp [member, Proposed, before, kept, supported]
    have key := List.mem_map_of_mem (f := fun spec : Spec => (spec.chainId, lower spec.registry)) proposed
    simpa [Fact.spec, same] using key

/-- A second derivation has nothing to add and no pointer to move. -/
theorem Next.quiet (next : Next lower excluded facts pointers reg reg')
    (idempotent : ∀ s, lower (lower s) = lower s)
    (lowered : ∀ fact ∈ facts, ∃ address, fact.registry = lower address)
    (distinct : pointers.keys.Nodup) :
    (propose lower reg' facts pointers excluded : Except Failure (Option (Document F))) = .ok none := by
  have nothing : added excluded (registeredIds lower reg') facts = [] := by
    rw [added, List.map_eq_nil_iff, List.filter_eq_nil_iff]
    intro fact member proposed
    obtain ⟨fresh, kept, supported⟩ := of_decide_eq_true proposed
    exact fresh (next.complete idempotent member (lowered fact member) kept supported)
  have unique : ((reg'.deployments.map Spec.of).map Spec.label).Nodup := by
    rw [← labelsOf_eq]
    exact reg'.unique
  have registered : facts.foldlM (register excluded (registeredIds lower reg'))
      (reg'.deployments.map Spec.of) = .ok (reg'.deployments.map Spec.of) := by
    rw [foldlM_register_iff unique, nothing, List.append_nil]
    exact ⟨rfl, unique⟩
  have settled : ∀ pointer ∈ pointers,
      deploymentLabel pointer.1 pointer.2 ∈ (reg'.deployments.map Spec.of).map Spec.label →
      reg'.latest.val.get? pointer.1 = some (deploymentLabel pointer.1 pointer.2) := by
    intro pointer member named
    rw [← labelsOf_eq] at named
    have found := (Dict.mem_iff_get? distinct).mp member
    rw [next.latest, found]
    simp [named, Option.filter_some]
  have still : pointers.foldl (point ((reg'.deployments.map Spec.of).map Spec.label)) (reg'.latest.val, false) =
      (reg'.latest.val, false) := foldl_point_quiet settled
  have level : decide ((reg'.deployments.map Spec.of).length ≠ (reg'.deployments.map Spec.of).length) =
      false := by simp
  rw [propose, registered, ok_bind, level, still]
  rfl

end

/-- What a derivation reads, looks at and writes. -/
theorem derive_eq {text : List Char} {reg : Registry} (read : registryOf floats text = .ok reg) :
    derive floats lower int tree excluded text = (do
      let found ← recordFacts floats lower int tree
      let proposed ← propose lower reg found.1 found.2 excluded
      .ok (proposed.elim text fun doc => Document.dumps floats doc ++ ['\n'])) := by
  obtain ⟨doc, loaded, parsed⟩ := bind_success read
  have loaded' : (orRaise .valueError (Document.loads floats text)).mapError Failure.raised = .ok doc := by
    rw [loaded]
    rfl
  have parsed' : (Registry.fromDict doc).mapError Failure.raised = .ok reg := by
    rw [parsed]
    rfl
  rw [derive, loaded', ok_bind, parsed', ok_bind]
  apply bind_congr
  intro found
  apply bind_congr
  intro proposed
  cases proposed <;> rfl

theorem registryOf_dumps (documented : floats.Documented) (doc : Document F) :
    registryOf floats (Document.dumps floats doc ++ ['\n']) = Registry.fromDict doc := by
  have newline : ∀ c ∈ ['\n'], Json.isSpace c = true := List.forall_mem_singleton.mpr rfl
  rw [registryOf, Document.loads_dumps documented _ newline]
  rfl

/-- How a registry follows the records. -/
structure Follows (floats : Floats F) (lower : String → String) (int : Document F → Except PyError Int)
    (tree : Tree) (excluded : List String) (reg reg' : Registry) : Prop where
  kept : reg.deployments <+: reg'.deployments
  recorded : ∀ spec ∈ reg'.deployments, spec ∈ reg.deployments ∨ ∃ fact,
    Recorded floats lower int tree fact ∧ Proposed excluded (registeredIds lower reg) fact ∧
      Spec.of spec = fact.spec
  read : ∀ path ∈ tree.keys, isRecord path.2 = true →
    ∃ fact, recordFact floats lower int tree path.1 path.2 = .ok fact
  complete : ∀ fact, Recorded floats lower int tree fact → fact.label ∉ excluded →
    fact.registryVersion ∈ supportedVersions → (fact.chainId, fact.registry) ∈ registeredIds lower reg'
  moved : ∀ network version, pointer floats tree network = .ok [(network, version)] →
    deploymentLabel network version ∈ labelsOf reg' →
      reg'.latest.val.get? network = some (deploymentLabel network version)
  stays : ∀ network, (∀ version, pointer floats tree network = .ok [(network, version)] →
    deploymentLabel network version ∉ labelsOf reg') →
      reg'.latest.val.get? network = reg.latest.val.get? network

theorem Next.follows {reg reg' : Registry} {facts : List Fact} {pointers : Dict String String}
    (next : Next lower excluded facts pointers reg reg') (idempotent : ∀ s, lower (lower s) = lower s)
    (found : recordFacts floats lower int tree = .ok (facts, pointers)) :
    Follows floats lower int tree excluded reg reg' := by
  obtain ⟨same, read⟩ := recordFacts_facts found
  obtain ⟨_, pointed⟩ := recordFacts_pointers found
  obtain ⟨old, new, split, before, after⟩ := List.map_eq_append_iff.mp next.deployments
  obtain rfl : old = reg.deployments := List.map_injective_iff.mpr of_injective before
  refine ⟨⟨new, split.symm⟩, ?recorded, read, ?complete, ?moved, ?stays⟩
  case recorded =>
    intro spec member
    rw [split, List.mem_append] at member
    apply member.imp id
    intro later
    have listed := List.mem_map_of_mem (f := Spec.of) later
    rw [after] at listed
    obtain ⟨fact, kept, own⟩ := List.mem_map.mp listed
    obtain ⟨member, proposed⟩ := List.mem_filter.mp kept
    exact ⟨fact, (same fact).mp member, of_decide_eq_true proposed, own.symm⟩
  case complete =>
    intro fact recorded kept supported
    obtain ⟨name, _, _, read⟩ := id recorded
    exact next.complete idempotent ((same fact).mpr recorded) (recordFact_success read).2.2 kept supported
  case moved =>
    intro network version own named
    rw [next.latest, (pointed network version).mpr own]
    simp [named, Option.filter_some]
  case stays =>
    intro network none
    rw [next.latest]
    cases pointer : pointers.get? network with
    | none => rfl
    | some version =>
      have unnamed := none version ((pointed network version).mp pointer)
      simp [unnamed, Option.filter_some]

/-- Every derivation that succeeds leaves a registry that follows the records: it keeps
what was registered, adds what the records name and nothing else, and moves a pointer to a
registered deployment only. Deriving again leaves the file as it is. -/
theorem derive_follows (documented : floats.Documented) (idempotent : ∀ s, lower (lower s) = lower s)
    {text text' : List Char} {reg : Registry} (read : registryOf floats text = .ok reg)
    (ok : derive floats lower int tree excluded text = .ok text') :
    ∃ reg', registryOf floats text' = .ok reg' ∧ Follows floats lower int tree excluded reg reg' ∧
      derive floats lower int tree excluded text' = .ok text' := by
  rw [derive_eq read] at ok
  obtain ⟨⟨facts, pointers⟩, found, ok⟩ := bind_success ok
  obtain ⟨proposed, offered, ok⟩ := bind_success ok
  obtain rfl := Except.ok.inj ok
  obtain ⟨distinct, _⟩ := recordFacts_pointers found
  obtain ⟨reg', next, outcome⟩ := propose_success distinct offered
  have read' : registryOf floats (proposed.elim text fun doc => Document.dumps floats doc ++ ['\n']) =
      .ok reg' := by
    rcases outcome with ⟨rfl, rfl⟩ | ⟨doc, rfl, valid⟩
    · exact read
    · rw [Option.elim, registryOf_dumps documented, valid]
  have lowered : ∀ fact ∈ facts, ∃ address, fact.registry = lower address := by
    intro fact member
    obtain ⟨name, _, _, recorded⟩ := ((recordFacts_facts found).1 fact).mp member
    exact (recordFact_success recorded).2.2
  refine ⟨reg', read', next.follows idempotent found, ?_⟩
  rw [derive_eq read', found, ok_bind, next.quiet idempotent lowered distinct, ok_bind]
  rfl

/-- The record of one deployment. -/
def gnosisRecord : Document Tenths := object
  [("address", text firstAddress),
   ("linkedData", object [("version", text "v1"), ("chainId", .int 100)]),
   ("receipt", object [("blockNumber", .int 40000000)])]

def gnosisFile : List Char := Document.dumps tenths gnosisRecord ++ ['\n']

/-- The record, and the pointer to it. -/
def gnosisTree : Tree :=
  [(("gnosis", "VolumeRegistry-v1.json"), gnosisFile), (("gnosis", "VolumeRegistry.json"), gnosisFile)]

def gnosisFact : Fact := ⟨"gnosis", "v1", 100, firstAddress, 40000000⟩

theorem gnosisFile_loads : Document.loads tenths gnosisFile = some gnosisRecord := by
  apply Document.loads_dumps tenths_documented
  exact List.forall_mem_singleton.mpr rfl

theorem gnosisTree_load {path : Path} (found : gnosisTree.get? path = some gnosisFile) :
    load tenths gnosisTree path = .ok gnosisRecord := by
  rw [load, found, Option.bind_some, gnosisFile_loads]
  rfl

theorem gnosisFact_read :
    recordFact tenths id asInt gnosisTree "gnosis" "VolumeRegistry-v1.json" = .ok gnosisFact := by
  have found : gnosisTree.get? ("gnosis", "VolumeRegistry-v1.json") = some gnosisFile := if_pos rfl
  rw [recordFact, gnosisTree_load found]
  rfl

theorem gnosisTree_networks : networks gnosisTree = ["gnosis"] := by
  have names : (gnosisTree.keys.map Prod.fst).dedup = ["gnosis"] := by decide
  rw [networks, names, List.mergeSort_singleton]

theorem gnosisTree_files : recordFiles gnosisTree "gnosis" = ["VolumeRegistry-v1.json"] := by
  have names : (gnosisTree.keys.dedup.filter fun path => path.1 = "gnosis" ∧ isRecord path.2).map Prod.snd =
      ["VolumeRegistry-v1.json"] := by decide
  rw [recordFiles, names, List.mergeSort_singleton]

theorem gnosisTree_facts :
    recordFacts tenths id asInt gnosisTree = .ok ([gnosisFact], [("gnosis", "v1")]) := by
  have pointed : pointer tenths gnosisTree "gnosis" = .ok [("gnosis", "v1")] := by
    have found : gnosisTree.get? (latestFile contract "gnosis") = some gnosisFile :=
      (if_neg (by decide)).trans (if_pos rfl)
    rw [pointer, found, gnosisTree_load found]
    rfl
  rw [recordFacts, gnosisTree_networks, List.mapM_cons, networkFacts, gnosisTree_files, List.mapM_cons,
    gnosisFact_read, pointed]
  rfl

/-- A registry of no deployment. -/
def noRegistry : Registry where
  deployments := []
  latest := ⟨[], by simp [Dict.keys]⟩
  unique := by simp
  home := by simp

def noRegistryFile : List Char :=
  Document.dumps tenths (registryToDict [] [] : Document Tenths) ++ ['\n']

theorem noRegistryFile_read : registryOf tenths noRegistryFile = .ok noRegistry := by
  rw [noRegistryFile, registryOf_dumps tenths_documented]
  rfl

/-- The recorded deployment is registered, once. -/
theorem derive_follows_sample : ∃ text' reg',
    derive tenths id asInt gnosisTree [] noRegistryFile = .ok text' ∧
    registryOf tenths text' = .ok reg' ∧ (100, firstAddress) ∈ registeredIds id reg' ∧
    derive tenths id asInt gnosisTree [] text' = .ok text' := by
  have derived : ∃ text', derive tenths id asInt gnosisTree [] noRegistryFile = .ok text' := by
    rw [derive_eq noRegistryFile_read, gnosisTree_facts]
    exact ⟨_, rfl⟩
  obtain ⟨text', ok⟩ := derived
  obtain ⟨reg', read, follows, again⟩ :=
    derive_follows tenths_documented (fun _ => rfl) noRegistryFile_read ok
  have recorded : Recorded tenths id asInt gnosisTree gnosisFact :=
    ⟨"VolumeRegistry-v1.json", by decide, by decide, gnosisFact_read⟩
  exact ⟨text', reg', ok, read, follows.complete gnosisFact recorded (by decide) (by decide), again⟩

/-! ## When a derivation is refused -/

theorem supported_named : ∀ version ∈ supportedVersions, versionName version = true := by
  decide

/-- A deployment's label spells its network and its version. -/
theorem label_injective {network network' version version' : String}
    (named : networkName network = true) (named' : networkName network' = true)
    (same : deploymentLabel network version = deploymentLabel network' version') :
    network = network' ∧ version = version' := by
  have first : networkOf (deploymentLabel network version) = network :=
    networkOf_label ⟨network, version, 0, "", none, named⟩
  have second : networkOf (deploymentLabel network' version') = network' :=
    networkOf_label ⟨network', version', 0, "", none, named'⟩
  have networks : network = network' := by
    rw [← first, ← second, same]
  have spelled := congrArg String.toList same
  rw [networks] at spelled
  refine ⟨networks, String.toList_injective ?_⟩
  simpa [deploymentLabel] using spelled

/-- A registry that was read has versions of the grammar. -/
theorem fromDict_versions {doc : Document F} {reg : Registry} (read : Registry.fromDict doc = .ok reg) :
    ∀ spec ∈ reg.deployments, versionName spec.registryVersion = true := by
  obtain ⟨deployments, all, read⟩ := bind_success read
  obtain ⟨objects, _, all⟩ := bind_success all
  split at read
  · obtain ⟨latest, _, read⟩ := bind_success read
    split at read
    · cases read
      intro spec member
      obtain ⟨object, _, own⟩ := (mem_mapM all).mp member
      obtain ⟨network, _, own⟩ := bind_success own
      obtain ⟨version, _, own⟩ := bind_success own
      split at own
      · split at own
        · obtain ⟨chainId, _, own⟩ := bind_success own
          obtain ⟨registry, _, own⟩ := bind_success own
          obtain ⟨genesisBlock, _, own⟩ := bind_success own
          cases own
          assumption
        · cases own
      · cases own
    · cases read
  · cases read

theorem pointsHome_iff {specs : List DeploymentSpec} (unique : (specs.map DeploymentSpec.label).Nodup)
    (pointer : String × String) :
    PointsHome specs pointer ↔ ∃ spec ∈ specs, spec.label = pointer.2 ∧ spec.network = pointer.1 := by
  rw [PointsHome, byLabel, Dict.get?_ofList_keyed (fun spec => spec) unique, Option.map_id']
  constructor
  · intro home
    obtain ⟨spec, found, network⟩ := Option.map_eq_some_iff.mp home
    have label := List.find?_some found
    exact ⟨spec, List.mem_of_find?_eq_some found, of_decide_eq_true label, network⟩
  · rintro ⟨spec, member, label, network⟩
    rw [← label, Dict.find?_keyed unique member, Option.map_some, network]

/-- A document with names of the grammar, distinct labels and pointers that point home is
read. -/
theorem registryToDict_read {specs : List Spec} {latest : Dict String String} (distinct : latest.keys.Nodup)
    (named : ∀ spec ∈ specs, networkName spec.network = true ∧ versionName spec.registryVersion = true)
    (unique : (specs.map Spec.label).Nodup)
    (home : ∀ pointer ∈ latest, ∃ spec ∈ specs, spec.label = pointer.2 ∧ spec.network = pointer.1) :
    ∃ reg, Registry.fromDict (registryToDict specs latest : Document F) = .ok reg := by
  have keys : ["deployments", "latest"].Nodup := by decide
  have each : ∀ object ∈ specs.map (Spec.toDict (F := F)),
      ∃ read, DeploymentSpec.fromDict object = .ok read := by
    intro object listed
    obtain ⟨spec, member, rfl⟩ := List.mem_map.mp listed
    rw [spec_read, dif_pos (named spec member).1, if_pos (named spec member).2]
    exact ⟨_, rfl⟩
  obtain ⟨deployments, all⟩ := mapM_total each
  have own := specs_of_read all
  have unique' : (deployments.map DeploymentSpec.label).Nodup := by
    rw [← own, List.map_map] at unique
    exact unique
  have home' : ∀ pointer ∈ (sortedMap ⟨latest, distinct⟩).val, PointsHome deployments pointer := by
    intro pointer member
    rw [pointsHome_iff unique']
    obtain ⟨spec, listed, label, network⟩ := home pointer ((sortedItems_perm latest).mem_iff.mp member)
    rw [← own] at listed
    obtain ⟨read, found, rfl⟩ := List.mem_map.mp listed
    exact ⟨read, found, label, network⟩
  unfold Registry.fromDict registryToDict
  rw [item_object keys rfl rfl, ok_bind, asList, ok_bind, all, ok_bind, dif_pos unique',
    textMap_read (sortedMap ⟨latest, distinct⟩) keys rfl rfl, ok_bind, dif_pos home']
  exact ⟨_, rfl⟩

theorem name_of_stem {name : String} (record : isRecord name = true) : stem name ++ ".json" = name := by
  obtain ⟨_, ⟨front, spelled⟩, _⟩ := of_decide_eq_true record
  have front' : name.toList.take (name.length - 5) = front := by
    have size : name.length = front.length + 5 := by
      rw [← String.length_toList, ← spelled]
      simp
    rw [← spelled, size]
    simp
  apply String.toList_injective
  rw [stem, String.toList_append, String.toList_ofList, front', spelled]

theorem nodup_networks : (networks tree).Nodup :=
  (List.mergeSort_perm ..).nodup_iff.mpr (List.nodup_dedup _)

theorem nodup_recordFiles (network : String) : (recordFiles tree network).Nodup := by
  apply (List.mergeSort_perm ..).nodup_iff.mpr
  apply List.Nodup.map_on
  · intro path first path' second same
    simp only [List.mem_filter, decide_eq_true_eq] at first second
    exact Prod.ext (first.2.1.trans second.2.1.symm) same
  · exact (List.nodup_dedup _).filter _

/-- Every fact is from a file of its own. -/
theorem nodup_files {facts : List Fact} {pointers : Dict String String}
    (found : recordFacts floats lower int tree = .ok (facts, pointers)) :
    (facts.map fun fact => outputFile contract fact.network fact.registryVersion).Nodup := by
  obtain ⟨entries, all, ok⟩ := bind_success found
  cases ok
  have files : (entries.flatMap Prod.fst).map (fun fact => outputFile contract fact.network fact.registryVersion) =
      (networks tree).flatMap fun network => (recordFiles tree network).map (Prod.mk network) := by
    rw [List.map_flatMap, List.flatMap_def, List.flatMap_def, map_of_mapM all]
    intro network _ entry own
    rw [map_of_mapM (networkFacts_success own).1]
    intro name listed fact read
    obtain ⟨rfl, version, _⟩ := recordFact_success read
    rw [outputFile, ← version, name_of_stem (mem_recordFiles.mp listed).2]
  rw [files, List.nodup_flatMap]
  constructor
  · intro network _
    exact (nodup_recordFiles network).map (Prod.mk_right_injective network)
  · apply nodup_networks.imp
    intro network network' other
    simp [Function.onFun, List.disjoint_left, other.symm]

theorem nodup_labels {facts : List Fact} {pointers : Dict String String}
    (named : ∀ network ∈ networks tree, networkName network = true)
    (found : recordFacts floats lower int tree = .ok (facts, pointers)) : (facts.map Fact.label).Nodup := by
  have files := nodup_files found
  have directory : ∀ fact ∈ facts, networkName fact.network = true := by
    intro fact member
    obtain ⟨name, filed, _⟩ := ((recordFacts_facts found).1 fact).mp member
    exact named _ (mem_networks.mpr ⟨name, filed⟩)
  apply List.Nodup.map_on _ files.of_map
  intro fact first fact' second same
  obtain ⟨network, version⟩ := label_injective (directory fact first) (directory fact' second) same
  apply List.inj_on_of_nodup_map files first second
  rw [network, version]

section

variable {reg : Registry} {facts : List Fact} {pointers : Dict String String}

/-- The specifications of the next registry have names of the grammar. -/
theorem specs_named (named : ∀ network ∈ networks tree, networkName network = true)
    (found : recordFacts floats lower int tree = .ok (facts, pointers))
    (versions : ∀ spec ∈ reg.deployments, versionName spec.registryVersion = true) :
    ∀ spec ∈ reg.deployments.map Spec.of ++ added excluded (registeredIds lower reg) facts,
      networkName spec.network = true ∧ versionName spec.registryVersion = true := by
  intro spec member
  rcases List.mem_append.mp member with old | new
  · obtain ⟨read, listed, rfl⟩ := List.mem_map.mp old
    exact ⟨read.named, versions read listed⟩
  · obtain ⟨fact, kept, rfl⟩ := List.mem_map.mp new
    obtain ⟨listed, proposed⟩ := List.mem_filter.mp kept
    obtain ⟨name, filed, _⟩ := ((recordFacts_facts found).1 fact).mp listed
    exact ⟨named _ (mem_networks.mpr ⟨name, filed⟩), supported_named _ (of_decide_eq_true proposed).2.2⟩

/-- The pointers of the next registry point home. -/
theorem pointers_home (named : ∀ network ∈ networks tree, networkName network = true)
    (found : recordFacts floats lower int tree = .ok (facts, pointers))
    (versions : ∀ spec ∈ reg.deployments, versionName spec.registryVersion = true)
    (grew : Bool) {specs : List Spec}
    (all : specs = reg.deployments.map Spec.of ++ added excluded (registeredIds lower reg) facts) :
    ∀ pointer ∈ (pointers.foldl (point (specs.map Spec.label)) (reg.latest.val, grew)).1,
      ∃ spec ∈ specs, spec.label = pointer.2 ∧ spec.network = pointer.1 := by
  obtain ⟨distinct, pointed⟩ := recordFacts_pointers found
  have kept := nodup_foldl_point (specs.map Spec.label) pointers (reg.latest.val, grew) reg.latest.property
  rintro ⟨network, label⟩ member
  have holds := (Dict.mem_iff_get? kept).mp member
  rw [get?_foldl_point _ distinct] at holds
  rcases Option.or_eq_some_iff.mp holds with moved | ⟨_, old⟩
  · obtain ⟨names, registered⟩ := Option.filter_eq_some_iff.mp moved
    obtain ⟨version, found', rfl⟩ := Option.map_eq_some_iff.mp names
    obtain ⟨spec, listed, label⟩ := List.mem_map.mp (of_decide_eq_true registered)
    have own : network ∈ networks tree := by
      rcases pointer_success ((pointed network version).mp found') with none | ⟨own, _⟩
      · cases none
      · exact own
    have spelled := (specs_named named found versions spec (all ▸ listed)).1
    exact ⟨spec, listed, label, (label_injective spelled (named network own) label).1⟩
  · have home := reg.home _ ((Dict.mem_iff_get? reg.latest.property).mpr old)
    obtain ⟨read, listed, label, network⟩ := (pointsHome_iff reg.unique _).mp home
    refine ⟨Spec.of read, ?_, label, network⟩
    rw [all]
    exact List.mem_append_left _ (List.mem_map_of_mem listed)

/-- With readable records in directories that are named as networks are, a derivation is
refused exactly where a deployment it would add has the label of a registered one. -/
theorem derive_isOk_iff (named : ∀ network ∈ networks tree, networkName network = true)
    (found : recordFacts floats lower int tree = .ok (facts, pointers)) {text : List Char}
    (read : registryOf floats text = .ok reg) :
    (∃ text', derive floats lower int tree excluded text = .ok text') ↔
      ∀ fact, Recorded floats lower int tree fact → Proposed excluded (registeredIds lower reg) fact →
        fact.label ∉ labelsOf reg := by
  obtain ⟨doc, _, parsed⟩ := bind_success read
  have versions := fromDict_versions parsed
  obtain ⟨same, _⟩ := recordFacts_facts found
  have unique : ((reg.deployments.map Spec.of).map Spec.label).Nodup := by
    rw [← labelsOf_eq]
    exact reg.unique
  have labels : (added excluded (registeredIds lower reg) facts).map Spec.label =
      (facts.filter (Proposed excluded (registeredIds lower reg))).map Fact.label := by
    rw [added, List.map_map]
    rfl
  rw [derive_eq read, found, ok_bind]
  constructor
  · rintro ⟨text', ok⟩ fact recorded proposed taken
    obtain ⟨outcome, offered, _⟩ := bind_success ok
    obtain ⟨specs, registered, _⟩ := bind_success offered
    obtain ⟨rfl, distinct⟩ := (foldlM_register_iff unique).mp registered
    rw [List.map_append, labels] at distinct
    have listed : fact.label ∈ (facts.filter (Proposed excluded (registeredIds lower reg))).map Fact.label := by
      apply List.mem_map_of_mem
      simp [(same fact).mpr recorded, proposed]
    rw [labelsOf_eq] at taken
    exact (List.nodup_append.mp distinct).2.2 _ taken _ listed rfl
  · intro free
    have distinct : ((reg.deployments.map Spec.of ++ added excluded (registeredIds lower reg) facts).map
        Spec.label).Nodup := by
      rw [List.map_append, labels]
      apply unique.append ((nodup_labels named found).sublist (List.filter_sublist.map _))
      intro label taken listed
      obtain ⟨fact, kept, rfl⟩ := List.mem_map.mp listed
      obtain ⟨member, proposed⟩ := List.mem_filter.mp kept
      rw [← labelsOf_eq] at taken
      exact free fact ((same fact).mp member) (of_decide_eq_true proposed) taken
    have registered := (foldlM_register_iff unique).mpr ⟨rfl, distinct⟩
    generalize all : reg.deployments.map Spec.of ++ added excluded (registeredIds lower reg) facts = specs
      at registered distinct
    have offered : ∃ outcome : Option (Document F),
        propose lower reg facts pointers excluded = .ok outcome := by
      rw [propose, registered, ok_bind]
      generalize decide (specs.length ≠ (reg.deployments.map Spec.of).length) = grew
      have kept := nodup_foldl_point (specs.map Spec.label) pointers (reg.latest.val, grew)
        reg.latest.property
      have names : ∀ spec ∈ specs, networkName spec.network = true ∧ versionName spec.registryVersion = true := by
        rw [← all]
        exact specs_named named found versions
      obtain ⟨reg', valid⟩ := registryToDict_read (F := F) kept names distinct
        (pointers_home named found versions grew all.symm)
      dsimp only
      split
      · rw [valid]
        exact ⟨_, rfl⟩
      · exact ⟨_, rfl⟩
    obtain ⟨outcome, offered⟩ := offered
    rw [offered, ok_bind]
    exact ⟨_, rfl⟩

end

/-- A registry with the record's label, at another address. -/
def movedRegistry : Registry where
  deployments := [gnosisSpec secondAddress]
  latest := ⟨[], by simp [Dict.keys]⟩
  unique := by simp
  home := by simp

def movedRegistryFile : List Char :=
  Document.dumps tenths (registryToDict [Spec.of (gnosisSpec secondAddress)] [] : Document Tenths) ++ ['\n']

theorem derive_isOk_iff_sample :
    ¬ ∃ text', derive tenths id asInt gnosisTree [] movedRegistryFile = .ok text' := by
  have read : registryOf tenths movedRegistryFile = .ok movedRegistry := by
    rw [movedRegistryFile, registryOf_dumps tenths_documented]
    rfl
  have named : ∀ network ∈ networks gnosisTree, networkName network = true := by
    rw [gnosisTree_networks]
    decide
  rw [derive_isOk_iff named gnosisTree_facts read]
  intro free
  have recorded : Recorded tenths id asInt gnosisTree gnosisFact :=
    ⟨"VolumeRegistry-v1.json", by decide, by decide, gnosisFact_read⟩
  exact free gnosisFact recorded (by decide) (by decide)

end SwarmVolumes.Guarantees.DerivedRegistry
