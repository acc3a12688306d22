import SwarmVolumes.Library.Document
import SwarmVolumes.Library.Fallible
import SwarmVolumes.Library.PyText
import SwarmVolumes.Source.Indexer.Directory

/-!
# Deployment records

`write_manifest` of `export_deployment.py:392-432`, with `read_json` and `quantity`. The
tree is its files, each named by its network directory and its name there. `str` of a value
and `str.lower` are parameters.
-/
namespace SwarmVolumes.Source.ExportDeployment
open Library

variable {F : Type}

/-- A network directory and a file in it. -/
abbrev Path := String × String

abbrev Tree := Dict Path (List Char)

/-- Why a value is no quantity, with its description. -/
inductive NotQuantity (D : Type) where
  | notInteger (description : D)
  | negative (description : D)

/-- Why a call writes nothing. -/
inductive Failure (F : Type) where
  | notQuantity (e : NotQuantity Path)
  | otherChain (network : String) (recorded chainId : Int)
  | invalidJson (path : Path)
  | notObject (path : Path)
  | noAddress
  | otherDeployment (network version : String) (recorded : Option (Document F))

/-- The arguments of a call, other than the contract's name. -/
structure Call (F : Type) where
  network : String
  version : String
  chainId : Int
  manifest : Dict (List Char) (Document F)
  latest : Bool

/-- The base `quantity` reads a text in. -/
def base (text : List Char) : Nat := if ['0', 'x'] <+: text ∨ ['0', 'X'] <+: text then 16 else 10

/-- The integer of a quantity. -/
def integer? : Option (Document F) → Option Int
  | some (.int n) => some n
  | some (.str text) => PyText.int (base text) text
  | _ => none

def quantity {D : Type} (value : Option (Document F)) (description : D) : Except (NotQuantity D) Int :=
  match integer? value with
  | none => .error (.notInteger description)
  | some n => if n < 0 then .error (.negative description) else .ok n

def chainFile (network : String) : Path := (network, ".chainId")

def versionedName (contractName version : String) : String := contractName ++ "-" ++ version

def outputFile (contractName network version : String) : Path :=
  (network, versionedName contractName version ++ ".json")

def latestFile (contractName network : String) : Path := (network, contractName ++ ".json")

/-- `json.dumps(manifest, indent=2) + "\n"`. -/
def Call.text (floats : Floats F) (call : Call F) : List Char :=
  Document.dumps floats (.obj call.manifest) ++ ['\n']

/-- `read_json`. -/
def readJson (floats : Floats F) (path : Path) (text : List Char) :
    Except (Failure F) (Dict (List Char) (Document F)) :=
  match Document.loads floats text with
  | none => .error (.invalidJson path)
  | some (.obj fields) => .ok fields
  | some _ => .error (.notObject path)

def addressKey : List Char := ['a', 'd', 'd', 'r', 'e', 's', 's']

section

variable (floats : Floats F) (str : Document F → List Char) (lower : List Char → List Char)
  (contractName : String)

/-- The directory records the call's chain, if it records one. -/
def checkChain (tree : Tree) (call : Call F) : Except (Failure F) Unit :=
  match tree.get? (chainFile call.network) with
  | none => .ok ()
  | some text => do
    let value : Document F := .str (Indexer.strip text)
    let recorded ← (quantity (some value) (chainFile call.network)).mapError .notQuantity
    if recorded = call.chainId then .ok () else .error (.otherChain call.network recorded call.chainId)

/-- The version's record, if there is one, is of the call's deployment. -/
def checkRecord (tree : Tree) (call : Call F) : Except (Failure F) Unit :=
  let path := outputFile contractName call.network call.version
  match tree.get? path with
  | none => .ok ()
  | some text => do
    let recorded ← readJson floats path text
    match call.manifest.get? addressKey with
    | none => .error .noAddress
    | some address =>
      if lower (str ((recorded.get? addressKey).getD (.str []))) = lower (str address) then .ok ()
      else .error (.otherDeployment call.network call.version (recorded.get? addressKey))

/-- The files a call writes, one after the other. -/
def store (tree : Tree) (call : Call F) : Tree :=
  let text := call.text floats
  let tree := tree.set (chainFile call.network) (Json.number call.chainId ++ ['\n'])
  let tree := tree.set (outputFile contractName call.network call.version) text
  if call.latest then tree.set (latestFile contractName call.network) text else tree

/-- The paths a call returns. -/
def written (call : Call F) : List Path :=
  outputFile contractName call.network call.version ::
    if call.latest then [latestFile contractName call.network] else []

/-- `write_manifest`: the tree it leaves, and what it returns. -/
def writeManifest (tree : Tree) (call : Call F) : Tree × Except (Failure F) (List Path) :=
  match (checkChain tree call >>= fun _ => checkRecord floats str lower contractName tree call) with
  | .error e => (tree, .error e)
  | .ok _ => (store floats contractName tree call, .ok (written contractName call))

/-- The tree after a sequence of calls on an empty one. -/
def afterCalls (calls : List (Call F)) : Tree :=
  calls.foldl (fun tree call => (writeManifest floats str lower contractName tree call).1) []

end

/-! ## Names -/

theorem outputFile_injective {contractName network network' version version' : String}
    (same : outputFile contractName network version = outputFile contractName network' version') :
    network = network' ∧ version = version' := by
  obtain ⟨directory, name⟩ := Prod.mk.inj same
  refine ⟨directory, String.toList_injective ?_⟩
  have spelled := congrArg String.toList name
  simpa [versionedName] using spelled

theorem outputFile_ne_latestFile {contractName network network' version : String} :
    outputFile contractName network version ≠ latestFile contractName network' := by
  intro same
  have spelled := congrArg (fun path : Path => path.2.toList.length) same
  simp [outputFile, latestFile, versionedName] at spelled

/-- A record's name ends with another letter than the chain file's. -/
theorem chainFile_ne_json {network network' name : String} :
    chainFile network ≠ (network', name ++ ".json") := by
  intro same
  have spelled := congrArg (fun path : Path => path.2.toList.getLast?) same
  simp [chainFile] at spelled

/-! ## The chain file read back -/

theorem numeric_not_blank {c : Char} (numeric : c = '-' ∨ c.isDigit = true) :
    Indexer.isBlank c = false := by
  rcases numeric with rfl | digit
  · rfl
  · have bounds := Char.isDigit_iff_toNat.mp digit
    have low : 48 ≤ c.toNat := bounds.1
    have high : c.toNat ≤ 57 := bounds.2
    have blank : c ≠ ' ' := Json.ne_of_digit digit rfl
    simp only [Indexer.isBlank, blank, false_or, decide_eq_false_iff_not]
    omega

theorem strip_number (n : Int) : Indexer.strip (Json.number n ++ ['\n']) = Json.number n := by
  have solid : ∀ c ∈ Json.number n, Indexer.isBlank c = false := fun c member =>
    numeric_not_blank (Json.numeric_of_mem member)
  obtain ⟨c, cs, spelled, numeric⟩ := Document.number_head n
  rw [Indexer.strip, spelled, List.cons_append, List.dropWhile_cons_of_neg
    (by simp [numeric_not_blank numeric]), ← List.cons_append, ← spelled,
    List.rdropWhile_concat_pos _ _ _ rfl, List.rdropWhile_eq_self_iff]
  intro present
  simp [solid _ (List.getLast_mem present)]

theorem base_number (n : Int) : base (Json.number n) = 10 := by
  rw [base, if_neg]
  have digit : ∀ {x c : Char} {rest}, Json.number n = x :: c :: rest → c.isDigit = true ∨ c = '-' := by
    intro x c rest spelled
    exact (Json.numeric_of_mem (by rw [spelled]; simp)).symm
  rintro (⟨rest, spelled⟩ | ⟨rest, spelled⟩)
  · exact absurd (digit spelled.symm) (by decide)
  · exact absurd (digit spelled.symm) (by decide)

/-- A chain id is read back as it was written, if it is read. -/
theorem quantity_number {path : Path} {n recorded : Int}
    (ok : quantity (some (.str (Indexer.strip (Json.number n ++ ['\n'])) : Document F)) path = .ok recorded) :
    recorded = n := by
  rw [strip_number, quantity, integer?, base_number] at ok
  split at ok
  · cases ok
  · rename_i m read
    split at ok
    · cases ok
    · rw [← Except.ok.inj ok, PyText.int_number read]

/-! ## What a call leaves -/

variable {floats : Floats F} {str : Document F → List Char} {lower : List Char → List Char}
  {contractName : String}

/-- A call fails and writes nothing, or passes both checks and writes. -/
theorem writeManifest_cases (tree : Tree) (call : Call F) :
    (∃ e, writeManifest floats str lower contractName tree call = (tree, .error e)) ∨
    checkChain tree call = .ok () ∧ checkRecord floats str lower contractName tree call = .ok () ∧
      writeManifest floats str lower contractName tree call =
        (store floats contractName tree call, .ok (written contractName call)) := by
  unfold writeManifest
  cases chain : checkChain tree call with
  | error e => exact .inl ⟨e, rfl⟩
  | ok _ =>
    cases record : checkRecord floats str lower contractName tree call with
    | error e => exact .inl ⟨e, rfl⟩
    | ok _ => exact .inr ⟨rfl, rfl, rfl⟩

theorem store_chainFile (tree : Tree) (call : Call F) (network : String) :
    (store floats contractName tree call).get? (chainFile network) =
      if network = call.network then some (Json.number call.chainId ++ ['\n'])
      else tree.get? (chainFile network) := by
  have output : chainFile network ≠ outputFile contractName call.network call.version := chainFile_ne_json
  have latest : chainFile network ≠ latestFile contractName call.network := chainFile_ne_json
  have same : chainFile network = chainFile call.network ↔ network = call.network := by simp [chainFile]
  unfold store
  split <;> simp only [Dict.get?_set, if_neg output, if_neg latest, same]

theorem store_outputFile (tree : Tree) (call : Call F) (network version : String) :
    (store floats contractName tree call).get? (outputFile contractName network version) =
      if network = call.network ∧ version = call.version then some (call.text floats)
      else tree.get? (outputFile contractName network version) := by
  have chain : outputFile contractName network version ≠ chainFile call.network := chainFile_ne_json.symm
  have latest : outputFile contractName network version ≠ latestFile contractName call.network :=
    outputFile_ne_latestFile
  have same : outputFile contractName network version =
      outputFile contractName call.network call.version ↔ network = call.network ∧ version = call.version :=
    ⟨outputFile_injective, fun ⟨network, version⟩ => by rw [network, version]⟩
  unfold store
  split <;> simp only [Dict.get?_set, if_neg chain, if_neg latest, same]

theorem store_latestFile (tree : Tree) (call : Call F) (network : String) :
    (store floats contractName tree call).get? (latestFile contractName network) =
      if network = call.network ∧ call.latest = true then some (call.text floats)
      else tree.get? (latestFile contractName network) := by
  have chain : latestFile contractName network ≠ chainFile call.network := chainFile_ne_json.symm
  have output : latestFile contractName network ≠ outputFile contractName call.network call.version :=
    outputFile_ne_latestFile.symm
  have same : latestFile contractName network = latestFile contractName call.network ↔
      network = call.network := by simp [latestFile]
  unfold store
  split
  · rename_i latest
    simp only [Dict.get?_set, if_neg chain, if_neg output, same, latest, and_true]
  · rename_i kept
    simp only [Dict.get?_set, if_neg chain, if_neg output, kept]
    simp

theorem afterCalls_snoc (calls : List (Call F)) (call : Call F) :
    afterCalls floats str lower contractName (calls ++ [call]) =
      (writeManifest floats str lower contractName (afterCalls floats str lower contractName calls)
        call).1 := by
  rw [afterCalls, List.foldl_append]
  rfl

end SwarmVolumes.Source.ExportDeployment
