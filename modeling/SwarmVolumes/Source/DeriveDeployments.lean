import SwarmVolumes.Source.ExportDeployment
import SwarmVolumes.Source.Published.Sync

/-!
# The derived registry

`derive_deployments.py`, with `to_dict` of `registry.py`: the deployment registry is
brought up to date with the deployment records. A specification is not validated before
the document is. A field whose type is not the declared one, which the source keeps as it
is, raises. `str.lower` and `int` are parameters.
-/
namespace SwarmVolumes.Source.DeriveDeployments
open Library Fields Published ExportDeployment
open Indexer (PyError orRaise)

variable {F : Type}

/-- `DeploymentSpec`, before it is validated. -/
structure Spec where
  network : String
  registryVersion : String
  chainId : Int
  registry : String
  genesisBlock : Option Int
  deriving DecidableEq, Repr

def Spec.label (spec : Spec) : String := deploymentLabel spec.network spec.registryVersion

def Spec.of (spec : DeploymentSpec) : Spec :=
  ⟨spec.network, spec.registryVersion, spec.chainId, spec.registry, spec.genesisBlock⟩

/-- `DeploymentSpec.to_dict`. -/
def Spec.toDict (spec : Spec) : Document F := object
  ([("network", text spec.network),
    ("registry_version", text spec.registryVersion),
    ("chain_id", .int spec.chainId),
    ("registry", text spec.registry)] ++ spec.genesisBlock.toList.map fun n => ("genesis_block", .int n))

/-- `Registry.to_dict`. -/
def registryToDict (specs : List Spec) (latest : Dict String String) : Document F := object
  [("deployments", .arr (specs.map Spec.toDict)),
   ("latest", object ((sortedItems latest).map fun entry => (entry.1, text entry.2)))]

/-- `_record_fact`'s dictionary. -/
structure Fact where
  network : String
  registryVersion : String
  chainId : Int
  registry : String
  genesisBlock : Int
  deriving DecidableEq, Repr

def Fact.label (fact : Fact) : String := deploymentLabel fact.network fact.registryVersion

def Fact.spec (fact : Fact) : Spec :=
  ⟨fact.network, fact.registryVersion, fact.chainId, fact.registry, some fact.genesisBlock⟩

/-- Why a run ends early: it exits with a message, or with an exception. -/
inductive Failure where
  | otherVersion (path : Path) (version : String)
  | labelTaken (label : String)
  | raised (e : PyError)

/-- `CONTRACT`. -/
def contract : String := "VolumeRegistry"

/-! ## The records -/

/-- The names `VolumeRegistry-*.json` matches. -/
def isRecord (name : String) : Bool :=
  (contract ++ "-").toList <+: name.toList ∧ ".json".toList <:+ name.toList ∧ 20 ≤ name.length

/-- `path.stem`, of a name in `.json`. -/
def stem (name : String) : String := String.ofList (name.toList.take (name.length - 5))

/-- The network directories, sorted. -/
def networks (tree : Tree) : List String := (tree.keys.map Prod.fst).dedup.mergeSort

/-- The versioned records of a network, sorted. -/
def recordFiles (tree : Tree) (network : String) : List String :=
  ((tree.keys.dedup.filter fun path => path.1 = network ∧ isRecord path.2).map Prod.snd).mergeSort

section

variable (floats : Floats F) (lower : String → String) (int : Document F → Except PyError Int)

/-- `json.loads` of a file. -/
def load (tree : Tree) (path : Path) : Except PyError (Document F) :=
  orRaise .valueError ((tree.get? path).bind (Document.loads floats))

/-- `_record_fact`. -/
def recordFact (tree : Tree) (network name : String) : Except Failure Fact := do
  let doc ← (load floats tree (network, name)).mapError .raised
  let version ← (item doc "linkedData" >>= (item · "version") >>= asText).mapError .raised
  if stem name ≠ versionedName contract version then .error (.otherVersion (network, name) version)
  else do
    let chainId ← (item doc "linkedData" >>= (item · "chainId") >>= int).mapError .raised
    let registry ← (item doc "address" >>= asText).mapError .raised
    let genesisBlock ← (item doc "receipt" >>= (item · "blockNumber") >>= int).mapError .raised
    .ok { network, registryVersion := version, chainId, registry := lower registry, genesisBlock }

/-- The version the network's `VolumeRegistry.json` names, if there is one. -/
def pointer (tree : Tree) (network : String) : Except Failure (List (String × String)) :=
  match tree.get? (latestFile contract network) with
  | none => .ok []
  | some _ => do
    let doc ← (load floats tree (latestFile contract network)).mapError .raised
    let version ← (item doc "linkedData" >>= (item · "version") >>= asText).mapError .raised
    .ok [(network, version)]

/-- The facts and the pointer of a network. -/
def networkFacts (tree : Tree) (network : String) :
    Except Failure (List Fact × List (String × String)) := do
  let facts ← (recordFiles tree network).mapM (recordFact floats lower int tree network)
  let pointers ← pointer floats tree network
  .ok (facts, pointers)

/-- `record_facts`. -/
def recordFacts (tree : Tree) : Except Failure (List Fact × Dict String String) := do
  let found ← (networks tree).mapM (networkFacts floats lower int tree)
  .ok (found.flatMap Prod.fst, found.flatMap Prod.snd)

/-- The body of the loop over the facts; `ids` are the deployments registered before. -/
def register (excluded : List String) (ids : List (Int × String)) (specs : List Spec) (fact : Fact) :
    Except Failure (List Spec) :=
  if (fact.chainId, fact.registry) ∈ ids ∨ fact.label ∈ excluded then .ok specs
  else if fact.registryVersion ∉ supportedVersions then .ok specs
  else if fact.label ∈ specs.map Spec.label then .error (.labelTaken fact.label)
  else .ok (specs ++ [fact.spec])

/-- The body of the loop over the pointers, with whether anything changed. -/
def point (labels : List String) (acc : Dict String String × Bool) (pointer : String × String) :
    Dict String String × Bool :=
  let label := deploymentLabel pointer.1 pointer.2
  if acc.1.get? pointer.1 = some label then acc
  else if label ∉ labels then acc
  else (acc.1.set pointer.1 label, true)

/-- `registered_ids`. -/
def registeredIds (reg : Registry) : List (Int × String) := reg.deployments.map (specKey lower)

/-- `main`, from the registry it read: the document it writes, unless nothing changed. -/
def propose (reg : Registry) (facts : List Fact) (pointers : Dict String String) (excluded : List String) :
    Except Failure (Option (Document F)) := do
  let before := reg.deployments.map Spec.of
  let specs ← facts.foldlM (register excluded (registeredIds lower reg)) before
  let (latest, changed) := pointers.foldl (point (specs.map Spec.label))
    (reg.latest.val, decide (specs.length ≠ before.length))
  if changed then do
    let doc := registryToDict specs latest
    let _ ← (Registry.fromDict doc).mapError Failure.raised
    .ok (some doc)
  else .ok none

/-- `main`: the text of `deployments.json` after it. -/
def derive (tree : Tree) (excluded : List String) (registryText : List Char) : Except Failure (List Char) := do
  let doc ← (orRaise .valueError (Document.loads floats registryText)).mapError .raised
  let reg ← (Registry.fromDict doc).mapError .raised
  let (facts, pointers) ← recordFacts floats lower int tree
  let proposed ← propose lower reg facts pointers excluded
  match proposed with
  | none => .ok registryText
  | some doc => .ok (Document.dumps floats doc ++ ['\n'])

end

end SwarmVolumes.Source.DeriveDeployments
