import SwarmVolumes.Source.Published.Serialize

/-!
# Publishing

`registry.py` and `cmd_sync` of `cli.py:178-282`: the deployment registry document, the
targets of a run, and the merge of their entries into the one artifact file. What a run
projects for a target (`_sync_and_project`, at the block it indexes to) is given with the
run, and so are its environment and its clock. `str.lower` is a parameter.
-/
namespace SwarmVolumes.Source.Published
open Library Fields
open Indexer (PyError)

variable {F : Type}

/-! ## The deployment registry -/

def positiveDigits (cs : List Char) : Bool :=
  match cs with
  | [] => false
  | c :: cs => decide (c ≠ '0') && (c :: cs).all Char.isDigit

/-- `VERSION_NAME`. -/
def versionName (version : String) : Bool :=
  match version.toList with
  | 'v' :: cs =>
    positiveDigits (cs.takeWhile Char.isDigit) &&
      match cs.dropWhile Char.isDigit with
      | [] => true
      | '-' :: 'r' :: 'c' :: more => positiveDigits more
      | _ => false
  | _ => false

def lowerOrDigit (c : Char) : Bool := c.isLower || c.isDigit

/-- `NETWORK_NAME`. -/
def networkName (network : String) : Bool :=
  match network.toList with
  | [] => false
  | c :: cs => lowerOrDigit c && cs.all fun c => lowerOrDigit c || c = '_'

def deploymentLabel (network registryVersion : String) : String := network ++ "-" ++ registryVersion

structure DeploymentSpec where
  network : String
  registryVersion : String
  chainId : Int
  registry : String
  genesisBlock : Option Int
  named : networkName network = true

def DeploymentSpec.label (spec : DeploymentSpec) : String :=
  deploymentLabel spec.network spec.registryVersion

/-- `obj.get(key)`, of a number. -/
def optionalInt (obj : Document F) (key : String) : Except PyError (Option Int) := do
  let fields ← asDict obj
  match fields.val.get? key with
  | none => .ok none
  | some .null => .ok none
  | some value => do
    let n ← asInt value
    .ok (some n)

def DeploymentSpec.fromDict (obj : Document F) : Except PyError DeploymentSpec := do
  let network ← item obj "network" >>= asText
  let version ← item obj "registry_version" >>= asText
  if named : networkName network = true then
    if versionName version then do
      let chainId ← item obj "chain_id" >>= asInt
      let registry ← item obj "registry" >>= asText
      let genesisBlock ← optionalInt obj "genesis_block"
      .ok { network, registryVersion := version, chainId, registry, genesisBlock, named }
    else .error .valueError
  else .error .valueError

/-- `{s.label: s for s in specs}`. -/
def byLabel (specs : List DeploymentSpec) : Dict String DeploymentSpec :=
  .ofList (specs.map fun spec => (spec.label, spec))

/-- The pointer names a deployment of its own network. -/
def PointsHome (specs : List DeploymentSpec) (pointer : String × String) : Prop :=
  ((byLabel specs).get? pointer.2).map DeploymentSpec.network = some pointer.1

instance (specs : List DeploymentSpec) : DecidablePred (PointsHome specs) :=
  fun _ => inferInstanceAs (Decidable (_ = _))

/-- A validated registry document. -/
structure Registry where
  deployments : List DeploymentSpec
  latest : Map String
  unique : (deployments.map DeploymentSpec.label).Nodup
  home : ∀ pointer ∈ latest.val, PointsHome deployments pointer

/-- `Registry.from_dict`. -/
def Registry.fromDict (doc : Document F) : Except PyError Registry := do
  let deployments ← item doc "deployments" >>= asList >>= List.mapM DeploymentSpec.fromDict
  if unique : (deployments.map DeploymentSpec.label).Nodup then do
    let latest ← textMap doc "latest"
    if home : ∀ pointer ∈ latest.val, PointsHome deployments pointer then
      .ok { deployments, latest, unique, home }
    else .error .valueError
  else .error .valueError

/-! ## Selecting -/

/-- What `resolve` reads of an item. -/
structure Named where
  label : String
  chainId : Int
  registry : String

/-- `f"{i.chain_id}:{i.registry}"`. -/
def Named.address (item : Named) : String := toString item.chainId ++ ":" ++ item.registry

/-- `resolve`, of items with these names. -/
def resolve {α : Type} (lower : String → String) (name : α → Named) (items : List α)
    (latest : Dict String String) (selector : Option String) : Option α :=
  match selector with
  | none => if items.length = 1 then items.head? else none
  | some selector =>
    let byLabel := Dict.ofList (items.map fun i => ((name i).label, i))
    (byLabel.get? selector).or
      (((latest.get? selector).bind fun label => byLabel.get? label).or
        (items.find? fun i => lower (name i).address = lower selector))

def DeploymentSpec.names (spec : DeploymentSpec) : Named := ⟨spec.label, spec.chainId, spec.registry⟩

/-- `select`, for a selector that is given. -/
def select (lower : String → String) (reg : Registry) (selector : String) : Option DeploymentSpec :=
  resolve lower DeploymentSpec.names reg.deployments reg.latest.val (some selector)

/-! ## A sync run -/

/-- `CHAIN_SHORT_NAMES`. -/
def chainShortNames : Dict Int String := [(1, "ETH"), (100, "GNO"), (11155111, "SEP")]

/-- `DEFAULT_CHAIN_ID`. -/
def defaultChainId : Int := 100

/-- `rpc_env`. -/
def rpcEnv (chainId : Int) : Option String :=
  (chainShortNames.get? chainId).map fun short => short ++ "_RPC_URL"

/-- `decode.supported_versions()`. -/
def supportedVersions : List String := ["v1", "v2-rc1", "v2-rc2", "v2-rc3", "v2-rc4"]

/-- The fields of an entry that its deployment does not name. -/
structure Projection (F : Type) where
  genesisTs : DateTime
  asOf : AsOf
  fiatCurrencies : List String
  extra : Map (Document F)
  snapshot : Snapshot F
  feeVolumeDaily : List (DailyFee F)
  capacityDaily : List DailyCapacity
  accountsDaily : List DailyAccounts
  priceDaily : List (DailyPrice F)

/-- The entry projected for a target. -/
def Projection.entry (projection : Projection F) (spec : DeploymentSpec) : ArtifactEntry F :=
  { label := spec.label
    chainId := spec.chainId
    registry := spec.registry
    registryVersion := spec.registryVersion
    genesisTs := projection.genesisTs
    asOf := projection.asOf
    fiatCurrencies := projection.fiatCurrencies
    extra := projection.extra
    snapshot := projection.snapshot
    feeVolumeDaily := projection.feeVolumeDaily
    capacityDaily := projection.capacityDaily
    accountsDaily := projection.accountsDaily
    priceDaily := projection.priceDaily }

/-- What one run is given; `connect` is the chain id a reachable endpoint serves. -/
structure Run (F : Type) where
  document : Document F
  deployment : Option String
  rpc : Option String
  environ : String → Option String
  connect : String → Option Int
  project : DeploymentSpec → Except PyError (Projection F)
  now : DateTime

/-- Why a run writes nothing. -/
inductive Refusal where
  | invalidRegistry (e : PyError)
  | unknownDeployment (selector : String)
  | noEndpoint (env : Option String)
  | cannotConnect (rpcUrl : String)
  | otherChain (spec : DeploymentSpec) (chainId : Int)
  | noDeployment (chainId : Int)
  | unsupported (specs : List DeploymentSpec)
  | raised (e : PyError)

/-- An empty string counts as no string. -/
def given (s : Option String) : Option String := s.filter fun s => s ≠ ""

/-- The deployment a run names. -/
def chosen (lower : String → String) (reg : Registry) (run : Run F) :
    Except Refusal (Option DeploymentSpec) :=
  match given run.deployment with
  | none => .ok none
  | some selector =>
    match select lower reg selector with
    | none => .error (.unknownDeployment selector)
    | some spec => .ok (some spec)

/-- The chain the run's endpoint serves. -/
def chainOf (run : Run F) (chosen : Option DeploymentSpec) : Except Refusal Int :=
  let env := rpcEnv ((chosen.map DeploymentSpec.chainId).getD defaultChainId)
  match (given run.rpc).or (given (env.bind run.environ)) with
  | none => .error (.noEndpoint env)
  | some rpcUrl =>
    match run.connect rpcUrl with
    | none => .error (.cannotConnect rpcUrl)
    | some chainId => .ok chainId

/-- The deployments a run syncs. -/
def targetsOn (reg : Registry) (chosen : Option DeploymentSpec) (chainId : Int) :
    Except Refusal (List DeploymentSpec) :=
  match chosen with
  | some spec => if spec.chainId = chainId then .ok [spec] else .error (.otherChain spec chainId)
  | none =>
    let targets := reg.deployments.filter fun spec => spec.chainId = chainId
    if targets = [] then .error (.noDeployment chainId) else .ok targets

/-- `_unsupported`. -/
def unsupported (targets : List DeploymentSpec) : List DeploymentSpec :=
  targets.filter fun spec => spec.registryVersion ∉ supportedVersions

/-- The registry a run reads, and the deployments it syncs. -/
def plan (lower : String → String) (run : Run F) : Except Refusal (Registry × List DeploymentSpec) := do
  let reg ← (Registry.fromDict run.document).mapError .invalidRegistry
  let chosen ← chosen lower reg run
  let chainId ← chainOf run chosen
  let targets ← targetsOn reg chosen chainId
  if unsupported targets = [] then .ok (reg, targets) else .error (.unsupported (unsupported targets))

/-- `(e.chain_id, e.registry.lower())`. -/
def entryKey (lower : String → String) (e : ArtifactEntry F) : Int × String :=
  (e.chainId, lower e.registry)

/-- The merge: synced entries replaced, the rest kept. -/
def mergeEntries (lower : String → String) (existing entries : List (ArtifactEntry F)) :
    List (ArtifactEntry F) :=
  let byId := Dict.filed (entryKey lower) existing
  (entries.foldl (fun byId entry => Dict.set byId (entryKey lower entry) entry) byId).values

/-- `{**prior, **own}`. -/
def overridden (prior own : Map String) : Dict String String :=
  own.val.foldl (fun d pointer => Dict.set d pointer.1 pointer.2) prior.val

theorem nodup_overridden (prior own : Map String) : (overridden prior own).keys.Nodup := by
  unfold overridden
  generalize own.val = pointers
  induction pointers using List.reverseRecOn with
  | nil => exact prior.property
  | append_singleton pointers pointer ih =>
    rw [List.foldl_append]
    exact Dict.nodup_update _ ih

/-- The pointers that name one of the labels. -/
def pointersTo (labels : List String) (pointers : Map String) : Map String :=
  ⟨pointers.val.filter fun pointer => pointer.2 ∈ labels,
    pointers.property.sublist (List.filter_sublist.map _)⟩

/-- The artifact a run writes. -/
def merged (lower : String → String) (reg : Registry) (now : DateTime)
    (existing : Option (Artifact F)) (entries : List (ArtifactEntry F)) : Artifact F :=
  let deployments := mergeEntries lower ((existing.map Artifact.deployments).getD []) entries
  let prior := (existing.map Artifact.latest).getD (.ofFields [])
  { schemaVersion
    generatedAt := now
    deployments
    latest := pointersTo (deployments.map ArtifactEntry.label)
      ⟨overridden prior reg.latest, nodup_overridden prior reg.latest⟩ }

/-- `_load_existing`. -/
def loadExisting (floats : Floats F) (file : Option (List Char)) :
    Except PyError (Option (Artifact F)) :=
  match file with
  | none => .ok none
  | some text => (artifactFromJson floats text).map some

/-- The entries a run projects, target by target. -/
def project (run : Run F) (targets : List DeploymentSpec) : Except PyError (List (ArtifactEntry F)) :=
  targets.mapM fun spec => do
    let projection ← run.project spec
    .ok (projection.entry spec)

/-- `cmd_sync`: the text it leaves in the artifact file. -/
def cmdSync (floats : Floats F) (lower : String → String) (file : Option (List Char)) (run : Run F) :
    Except Refusal (List Char) := do
  let (reg, targets) ← plan lower run
  let entries ← (project run targets).mapError .raised
  let existing ← (loadExisting floats file).mapError .raised
  .ok (artifactToJson floats (merged lower reg run.now existing entries) ++ ['\n'])

/-- The artifact file a run leaves; one that fails does not write. -/
def leave (floats : Floats F) (lower : String → String) (file : Option (List Char)) (run : Run F) :
    Option (List Char) :=
  match cmdSync floats lower file run with
  | .ok text => some text
  | .error _ => file

/-- The artifact file after a sequence of runs. -/
def afterRuns (floats : Floats F) (lower : String → String) (file : Option (List Char))
    (runs : List (Run F)) : Option (List Char) :=
  runs.foldl (leave floats lower) file

/-! ## Runs on the artifact itself -/

variable {floats : Floats F} {lower : String → String}

/-- The artifact a run writes over the one it finds. -/
def published (lower : String → String) (existing : Option (Artifact F)) (run : Run F) :
    Except Refusal (Artifact F) := do
  let (reg, targets) ← plan lower run
  let entries ← (project run targets).mapError .raised
  .ok (merged lower reg run.now existing entries)

/-- The artifact the file holds after a run, as it is read. -/
def held (lower : String → String) (existing : Option (Artifact F)) (run : Run F) :
    Option (Artifact F) :=
  match published lower existing run with
  | .ok artifact => some artifact.written
  | .error _ => existing

theorem cmdSync_eq {file : Option (List Char)} {existing : Option (Artifact F)}
    (loaded : loadExisting floats file = .ok existing) (run : Run F) :
    cmdSync floats lower file run = (published lower existing run).map fun artifact =>
      artifactToJson floats artifact ++ ['\n'] := by
  unfold cmdSync published
  rw [loaded]
  cases plan lower run with
  | error e => rfl
  | ok planned =>
    simp only [ok_bind]
    cases project run planned.2 with
    | error e => rfl
    | ok entries => rfl

/-- What a run leaves in the file is what it leaves of the artifact. -/
theorem loadExisting_leave (documented : floats.Documented) {file : Option (List Char)}
    {existing : Option (Artifact F)} (loaded : loadExisting floats file = .ok existing) (run : Run F) :
    loadExisting floats (leave floats lower file run) = .ok (held lower existing run) := by
  unfold leave held
  rw [cmdSync_eq loaded]
  cases published lower existing run with
  | error e => exact loaded
  | ok artifact =>
    have newline : ∀ c ∈ ['\n'], Json.isSpace c = true := List.forall_mem_singleton.mpr rfl
    have read := artifactFromJson_artifactToJson documented artifact newline
    change (artifactFromJson floats (artifactToJson floats artifact ++ ['\n'])).map some = _
    rw [read]
    rfl

theorem loadExisting_afterRuns (documented : floats.Documented) {file : Option (List Char)}
    {existing : Option (Artifact F)} (loaded : loadExisting floats file = .ok existing)
    (runs : List (Run F)) :
    loadExisting floats (afterRuns floats lower file runs) = .ok (runs.foldl (held lower) existing) := by
  unfold afterRuns
  induction runs generalizing file existing with
  | nil => exact loaded
  | cons run runs ih => exact ih (loadExisting_leave documented loaded run)

theorem afterRuns_snoc (file : Option (List Char)) (runs : List (Run F)) (run : Run F) :
    afterRuns floats lower file (runs ++ [run]) =
      leave floats lower (afterRuns floats lower file runs) run := by
  rw [afterRuns, List.foldl_append]
  rfl

/-- A run that writes has a plan and the entries of its targets. -/
theorem published_success {existing : Option (Artifact F)} {run : Run F} {artifact : Artifact F}
    (ok : published lower existing run = .ok artifact) :
    ∃ reg targets entries, plan lower run = .ok (reg, targets) ∧ project run targets = .ok entries ∧
      artifact = merged lower reg run.now existing entries := by
  obtain ⟨⟨reg, targets⟩, planned, ok⟩ := bind_success ok
  obtain ⟨entries, projected, ok⟩ := bind_success ok
  cases same : project run targets with
  | error e =>
    rw [same] at projected
    cases projected
  | ok entries' =>
    rw [same] at projected
    cases projected
    cases ok
    exact ⟨reg, targets, entries, planned, same, rfl⟩

/-- The store key of a target, lowercased. -/
def specKey (lower : String → String) (spec : DeploymentSpec) : Int × String :=
  (spec.chainId, lower spec.registry)

/-- The targets with the entries projected for them. -/
theorem project_pairs {run : Run F} {targets : List DeploymentSpec} {entries : List (ArtifactEntry F)}
    (ok : project run targets = .ok entries) : ∃ pairs : List (DeploymentSpec × ArtifactEntry F),
      pairs.map Prod.fst = targets ∧ pairs.map Prod.snd = entries ∧
      ∀ pair ∈ pairs, pair.2.label = pair.1.label ∧ entryKey lower pair.2 = specKey lower pair.1 := by
  unfold project at ok
  induction targets generalizing entries with
  | nil =>
    rw [List.mapM_nil] at ok
    cases ok
    refine ⟨[], rfl, rfl, ?_⟩
    intro pair member
    cases member
  | cons spec targets ih =>
    rw [List.mapM_cons] at ok
    obtain ⟨entry, first, ok⟩ := bind_success ok
    obtain ⟨rest, others, same⟩ := bind_success ok
    obtain ⟨projection, _, own⟩ := bind_success first
    cases own
    cases same
    obtain ⟨pairs, specs, projected, agree⟩ := ih others
    refine ⟨(spec, projection.entry spec) :: pairs, by rw [List.map_cons, specs],
      by rw [List.map_cons, projected], List.forall_mem_cons.mpr ⟨⟨rfl, rfl⟩, agree⟩⟩

/-- The last entry of a list with the key of this one. -/
def lastAlike (lower : String → String) (e : ArtifactEntry F) (es : List (ArtifactEntry F)) :
    Option (ArtifactEntry F) :=
  latest (fun b => if entryKey lower b = entryKey lower e then some b else none) es

theorem mergeEntries_eq (existing entries : List (ArtifactEntry F)) :
    mergeEntries lower existing entries = (Dict.filed (entryKey lower) (existing ++ entries)).values := by
  rw [mergeEntries, Dict.filed_append]

/-- What the merge keeps: the entries of the run and those with none of their keys. -/
theorem mem_mergeEntries {existing entries : List (ArtifactEntry F)} {e : ArtifactEntry F} :
    e ∈ mergeEntries lower existing entries ↔ lastAlike lower e entries = some e ∨
      lastAlike lower e entries = none ∧ lastAlike lower e existing = some e := by
  rw [mergeEntries_eq, Dict.mem_values_filed, latest_append]
  change (lastAlike lower e entries).or (lastAlike lower e existing) = some e ↔ _
  exact Option.or_eq_some_iff

theorem lastAlike_eq_none {e : ArtifactEntry F} {es : List (ArtifactEntry F)} :
    lastAlike lower e es = none ↔ ∀ b ∈ es, entryKey lower b ≠ entryKey lower e := by
  rw [lastAlike, latest_eq_none]
  refine forall₂_congr fun b _ => ?_
  split <;> simp_all

theorem lastAlike_eq_some {e : ArtifactEntry F} {es : List (ArtifactEntry F)} :
    lastAlike lower e es = some e ↔
      ∃ before after, es = before ++ e :: after ∧ ∀ b ∈ after, entryKey lower b ≠ entryKey lower e := by
  have other : ∀ b : ArtifactEntry F, (if entryKey lower b = entryKey lower e then some b else none) = none ↔
      entryKey lower b ≠ entryKey lower e := fun b => by split <;> simp_all
  rw [lastAlike, latest_eq_some]
  constructor
  · rintro ⟨before, c, after, rfl, own, apart⟩
    split at own
    · cases own
      exact ⟨before, after, rfl, fun b member => (other b).mp (apart b member)⟩
    · cases own
  · rintro ⟨before, after, rfl, apart⟩
    exact ⟨before, e, after, rfl, if_pos rfl, fun b member => (other b).mpr (apart b member)⟩

/-- Where keys are distinct, an entry is the last one with its key. -/
theorem lastAlike_self {e : ArtifactEntry F} {es : List (ArtifactEntry F)}
    (distinct : (es.map (entryKey lower)).Nodup) (member : e ∈ es) : lastAlike lower e es = some e := by
  obtain ⟨before, after, rfl⟩ := List.append_of_mem member
  refine lastAlike_eq_some.mpr ⟨before, after, rfl, fun b later same => ?_⟩
  rw [List.map_append, List.map_cons] at distinct
  have apart := (List.nodup_cons.mp distinct.of_append_right).1
  exact apart (same ▸ List.mem_map_of_mem later)

/-- The merge files its entries under distinct keys. -/
theorem mergeEntries_distinct (existing entries : List (ArtifactEntry F)) :
    ((mergeEntries lower existing entries).map (entryKey lower)).Nodup := by
  rw [mergeEntries_eq]
  exact Dict.nodup_filed _ _

end SwarmVolumes.Source.Published
