import Mathlib.Algebra.Order.Ring.Int
import SwarmVolumes.Library.Fallible
import SwarmVolumes.Library.HexText
import SwarmVolumes.Source.ExportDeployment
import SwarmVolumes.Source.Published.Sync

/-!
# Deployment manifests

`build_manifest` of `export_deployment.py:63-385`, with `load_profile` and `release_salt`
of `deploy.py`. An object is the list of its fields. What `cast` prints for the address of a
CREATE2 deployment is a parameter.
-/
namespace SwarmVolumes.Source.BuildManifest
open Library
open Library.Hex (isHexDigit)
open Library.PyText (lower)
open ExportDeployment (NotQuantity)
open Published (versionName)

abbrev Text := List Char

variable {F : Type}

/-- The fields of a JSON object. -/
abbrev Fields (F : Type) := Dict Text (Document F)

/-- What `cast compute-address factory --salt salt --init-code initcode` prints, unless it
fails. -/
abbrev Cast := Text → Text → Text → Option Text

/-- Why there is no manifest: a message of `fail`, or an exception. -/
inductive Refusal where
  | typeError
  | valueError
  | calledProcessError
  | unknownProfile (name : Text) (choices : List Text)
  | missing (name : Text) (key : String)
  | invalid (name : Text) (key : String)
  | invalidRelease (version : Text)
  | notQuantity (e : NotQuantity String)
  | notFlag (description : String)
  | noTransactions
  | deployments (contractName : Text) (found : Nat)
  | invalidHash (contractName : Text)
  | invalidAddress (contractName : Text)
  | noReceipts
  | receipts (hash : Text) (found : Nat)
  | notSucceeded (hash : Text)
  | otherCreated
  | otherFactory
  | otherReceiptFactory
  | noInput
  | otherSalt (salt version expected : Text)
  | noDerivedAddress (output : Text)
  | otherAddress (derived recorded : Text)
  | otherChain (profile : Text) (required recorded : Int)
  | argumentCount
  | otherArgument (name : String)
  | otherEncoding
  | noAbi
  | noBytecode
  | otherBytecode
  | logNotObject (index : Nat)
  | latestBroadcast

/-! ## Values -/

/-- `value.get(key)`. -/
def field (fields : Fields F) (key : String) : Option (Document F) := fields.get? key.toList

def asText : Option (Document F) → Option Text
  | some (.str text) => some text
  | _ => none

def asObject : Option (Document F) → Option (Fields F)
  | some (.obj fields) => some fields
  | _ => none

/-- `0x` and this many hexadecimal digits. -/
def isHexText (width : Nat) : Text → Bool
  | '0' :: 'x' :: digits => digits.length = width ∧ digits.all isHexDigit
  | _ => false

/-- `ADDRESS`. -/
def isAddress : Text → Bool := isHexText 40

/-- `TRANSACTION_HASH`. -/
def isTransactionHash : Text → Bool := isHexText 64

def quantity (value : Option (Document F)) (description : String) : Except Refusal Int :=
  (ExportDeployment.quantity value description).mapError .notQuantity

def flag (value : Document F) (description : String) : Except Refusal Bool :=
  match value with
  | .bool b => .ok b
  | .str text =>
    if text = "true".toList then .ok true
    else if text = "false".toList then .ok false
    else .error (.notFlag description)
  | _ => .error (.notFlag description)

/-! ## The profile -/

abbrev AddressText := { text : Text // isAddress text = true }

/-- The values of `CONSTRUCTOR_ARGS`. -/
structure ConstructorArgs where
  postageStamp : AddressText
  bzz : AddressText
  graceBlocks : Nat
  bzzPermitExpiry : Bool
  bounded : graceBlocks < 2 ^ 64

structure Profile extends ConstructorArgs where
  chainId : Int

/-- `CONSTRUCTOR_ARGS`. -/
def constructorArgNames : List String := ["PostageStamp", "BZZ", "graceBlocks", "bzzPermitExpiry"]

def profileKeys : List String := ["chain_id", "postage_stamp", "bzz", "grace_blocks", "bzz_permit_expiry"]

def profileAddress (name : Text) (profile : Fields F) (key : String) : Except Refusal AddressText :=
  match field profile key with
  | some (.str text) =>
    if address : isAddress text = true then .ok ⟨text, address⟩ else .error (.invalid name key)
  | _ => .error .typeError

/-- `load_profile`, of the profiles in `deployments.toml`; what is no table is refused one way
or another. -/
def loadProfile (profiles : Fields F) (name : Text) : Except Refusal Profile :=
  match profiles.get? name with
  | none => .error (.unknownProfile name profiles.keys)
  | some (.obj profile) => do
    profileKeys.forM fun key =>
      if (field profile key).isNone then .error (.missing name key) else .ok ()
    let postageStamp ← profileAddress name profile "postage_stamp"
    let bzz ← profileAddress name profile "bzz"
    match field profile "chain_id" with
    | some (.int chainId) =>
      match field profile "grace_blocks" with
      | some (.int grace) =>
        if bounded : 0 ≤ grace ∧ grace < 2 ^ 64 then
          match field profile "bzz_permit_expiry" with
          | some (.bool bzzPermitExpiry) =>
            .ok
              { chainId, postageStamp, bzz, graceBlocks := grace.toNat, bzzPermitExpiry
                bounded := by omega }
          | _ => .error (.invalid name "bzz_permit_expiry")
        else .error (.invalid name "grace_blocks")
      | _ => .error (.invalid name "grace_blocks")
    | _ => .error (.invalid name "chain_id")
  | some _ => .error .typeError

/-- `constructor_args`. -/
def constructorArgs (profile : Profile) : ConstructorArgs := profile.toConstructorArgs

/-- The arguments as the list of them. -/
def ConstructorArgs.list (args : ConstructorArgs) : List (Document F) :=
  [.str args.postageStamp, .str args.bzz, .int args.graceBlocks, .bool args.bzzPermitExpiry]

/-! ## The deployment -/

/-- `CREATE2_FACTORY`. -/
def create2Factory : Text := "0x4e59b44847b379578588920ca78fbf26c0b4956c".toList

def create : Text := "CREATE".toList

def create2 : Text := "CREATE2".toList

/-- The deployments of the contract among the transactions. -/
def deployments (transactions : List (Document F)) (contractName : Text) : List (Fields F) :=
  (transactions.filterMap fun transaction => asObject (some transaction)).filter fun transaction =>
    (asText (field transaction "transactionType") = some create ∨
      asText (field transaction "transactionType") = some create2) ∧
    asText (field transaction "contractName") = some contractName

/-- The receipts of a transaction. -/
def receiptsOf (receipts : List (Document F)) (hash : Text) : List (Fields F) :=
  (receipts.filterMap fun receipt => asObject (some receipt)).filter fun receipt =>
    (asText (field receipt "transactionHash")).map lower = some (lower hash)

/-- What the receipt and the transaction say of where the contract was created. -/
def checkCreation (transaction receipt : Fields F) (address : Text) : Except Refusal Unit :=
  if asText (field transaction "transactionType") = some create then
    if (asText (field receipt "contractAddress")).map lower = some (lower address) then .ok ()
    else .error .otherCreated
  else
    let target := (asObject (field transaction "transaction")).bind fun raw => asText (field raw "to")
    if target.map lower = some create2Factory then
      if (asText (field receipt "to")).map lower = some create2Factory then .ok ()
      else .error .otherReceiptFactory
    else .error .otherFactory

/-- A deployment that `find_deployment` accepts, with its hash and address. -/
structure Deployment (F : Type) where
  transaction : Fields F
  receipt : Fields F
  hash : Text
  address : Text

def findDeployment (broadcast : Fields F) (contractName : Text) :
    Except Refusal (Deployment F) :=
  match field broadcast "transactions" with
  | some (.arr transactions) =>
    match deployments transactions contractName with
    | [transaction] =>
      match asText (field transaction "hash") with
      | none => .error (.invalidHash contractName)
      | some hash =>
        if isTransactionHash hash then
          match asText (field transaction "contractAddress") with
          | none => .error (.invalidAddress contractName)
          | some address =>
            if isAddress address then
              match field broadcast "receipts" with
              | some (.arr receipts) =>
                match receiptsOf receipts hash with
                | [receipt] => do
                  let status ← quantity (field receipt "status") "deployment receipt status"
                  if status = 1 then
                    checkCreation transaction receipt address
                    .ok ⟨transaction, receipt, hash, address⟩
                  else .error (.notSucceeded hash)
                | found => .error (.receipts hash found.length)
              | _ => .error .noReceipts
            else .error (.invalidAddress contractName)
        else .error (.invalidHash contractName)
    | found => .error (.deployments contractName found.length)
  | _ => .error .noTransactions

/-! ## The initcode -/

/-- `release_salt`. -/
def releaseSalt (version : Text) : Except Refusal Text :=
  if versionName (String.ofList version) then
    .ok ('0' :: 'x' :: (version.rightpad 32 (Char.ofNat 0)).flatMap fun c => Hex.digits 2 c.toNat)
  else .error (.invalidRelease version)

/-- `re.search(r"0x[0-9a-fA-F]{40}", output)`. -/
def searchAddress : Text → Option Text
  | [] => none
  | c :: rest => if isAddress ((c :: rest).take 42) then some ((c :: rest).take 42) else searchAddress rest

/-- `create2_address`. -/
def create2Address (cast : Cast) (factory salt initcode : Text) : Except Refusal Text :=
  match cast factory salt initcode with
  | none => .error .calledProcessError
  | some output =>
    match searchAddress output with
    | none => .error (.noDerivedAddress output)
    | some address => .ok address

/-- `transaction["transaction"]["input"]`. -/
def input (transaction : Fields F) : Option Text :=
  (asObject (field transaction "transaction")).bind fun raw => asText (field raw "input")

/-- `deployment_initcode`; of a CREATE2 deployment, with the salt. -/
def deploymentInitcode (cast : Cast) (deployment : Deployment F) (version : Text) :
    Except Refusal (Text × Option Text) :=
  match input deployment.transaction with
  | some ('0' :: 'x' :: data) =>
    if asText (field deployment.transaction "transactionType") = some create then
      .ok ('0' :: 'x' :: data, none)
    else do
      let salt := '0' :: 'x' :: lower (data.take 64)
      let initcode := '0' :: 'x' :: data.drop 64
      let expected ← releaseSalt version
      if salt = expected then
        let derived ← create2Address cast create2Factory salt initcode
        if lower derived = lower deployment.address then .ok (initcode, some salt)
        else .error (.otherAddress derived deployment.address)
      else .error (.otherSalt salt version expected)
  | _ => .error .noInput

/-! ## The arguments -/

/-- Whether a recorded argument is the wanted one. -/
def matchesArg (name : String) (recorded wanted : Document F) : Except Refusal Bool :=
  if name = "PostageStamp" ∨ name = "BZZ" then
    match recorded, wanted with
    | .str recorded, .str wanted => .ok (lower recorded = lower wanted)
    | _, _ => .ok false
  else if name = "graceBlocks" then do
    let n ← quantity (some recorded) (name ++ " constructor argument")
    match wanted with
    | .int wanted => .ok (n = wanted)
    | _ => .ok false
  else do
    let b ← flag recorded (name ++ " constructor argument")
    match wanted with
    | .bool wanted => .ok (b = wanted)
    | _ => .ok false

/-- The loop of `constructor_args_mismatch`. -/
def firstMismatch :
    List (String × Document F × Document F) → Except Refusal (Option String)
  | [] => .ok none
  | (name, recorded, wanted) :: rest => do
    let same ← matchesArg name recorded wanted
    if same then firstMismatch rest else .ok (some name)

def constructorArgsMismatch (arguments : List (Document F)) (profile : Profile) :
    Except Refusal (Option String) :=
  firstMismatch (constructorArgNames.zip (arguments.zip (constructorArgs profile).list))

def validateProfile (profileName : Text) (profile : Profile) (broadcast : Fields F)
    (deployment : Deployment F) : Except Refusal Unit := do
  let chainId ← quantity (field broadcast "chain") "broadcast chain"
  if chainId = profile.chainId then
    match field deployment.transaction "arguments" with
    | some (.arr arguments) =>
      if arguments.length = constructorArgNames.length then
        match ← constructorArgsMismatch arguments profile with
        | none => .ok ()
        | some name => .error (.otherArgument name)
      else .error .argumentCount
    | _ => .error .argumentCount
  else .error (.otherChain profileName profile.chainId chainId)

/-- `text.removeprefix("0x")`. -/
def removePrefix : Text → Text
  | '0' :: 'x' :: rest => rest
  | text => text

/-- `format(n, "064x")`. -/
def format064x (n : Nat) : Text := (Nat.toDigits 16 n).leftpad 64 '0'

def encodeConstructorArgs (args : ConstructorArgs) : Text :=
  (removePrefix (lower args.postageStamp)).leftpad 64 '0' ++
    (removePrefix (lower args.bzz)).leftpad 64 '0' ++
    format064x args.graceBlocks ++ format064x args.bzzPermitExpiry.toNat

def creationBytecode (initcode : Text) (args : ConstructorArgs) : Except Refusal Text :=
  let initcode := lower initcode
  let encoded := encodeConstructorArgs args
  if encoded <:+ initcode then .ok (initcode.take (initcode.length - encoded.length))
  else .error .otherEncoding

/-- `artifact["bytecode"]["object"]`. -/
def bytecodeObject (artifact : Fields F) : Option Text :=
  (asObject (field artifact "bytecode")).bind fun bytecode => asText (field bytecode "object")

def validateArtifact (artifact : Fields F) (deployedBytecode : Text) :
    Except Refusal (List (Document F)) :=
  match field artifact "abi" with
  | some (.arr abi) =>
    match bytecodeObject artifact with
    | some ('0' :: 'x' :: digits) =>
      if lower ('0' :: 'x' :: digits) = deployedBytecode then .ok abi else .error .otherBytecode
    | _ => .error .noBytecode
  | _ => .error .noAbi

/-! ## The manifest -/

/-- The quantity of a field, if the object has it, written anew. -/
def normalizeField (describe : String → String) (write : Int → Document F)
    (fields : Fields F) (key : String) : Except Refusal (Fields F) :=
  match field fields key with
  | none => .ok fields
  | some value => do
    let n ← quantity (some value) (describe key)
    .ok (fields.set key.toList (write n))

def normalizeLog (log : Document F × Nat) : Except Refusal (Document F) :=
  match log.1 with
  | .obj fields => do
    let describe := fun key => "receipt log " ++ toString log.2 ++ " " ++ key
    let fields ← ["blockNumber", "transactionIndex", "logIndex"].foldlM
      (normalizeField describe .int) fields
    .ok (.obj fields)
  | _ => .error (.logNotObject log.2)

def normalizedReceipt (receipt : Fields F) : Except Refusal (Fields F) := do
  let describe := fun key => "receipt " ++ key
  let result ← ["blockNumber", "transactionIndex", "status"].foldlM
    (normalizeField describe .int) receipt
  let result ← ["cumulativeGasUsed", "gasUsed", "effectiveGasPrice"].foldlM
    (normalizeField describe fun n => .str (Json.number n)) result
  let result :=
    if (field result "status").isSome then result.set "byzantium".toList (.bool true) else result
  match field result "logs" with
  | some (.arr logs) => do
    let normalized ← logs.zipIdx.mapM (normalizeLog)
    .ok (result.set "logs".toList (.arr normalized))
  | _ => .ok result

/-- Of the broadcast's path, the name and the path beneath the contracts directory, if it
is there. -/
structure RunFile where
  name : Text
  relative : Option Text

structure LinkedData where
  version : Text
  chainId : Int
  profile : Text
  broadcast : Text
  timestamp : Option (Int ⊕ Bool)
  commit : Option Text
  create2 : Option (Text × Text)

structure Manifest (F : Type) where
  address : Text
  abi : List (Document F)
  bytecode : Text
  transactionHash : Text
  receipt : Fields F
  args : ConstructorArgs
  linkedData : LinkedData

/-- `timestamp`, where it is an `int`, as a `bool` is. -/
def timestampOf (broadcast : Fields F) : Option (Int ⊕ Bool) :=
  match field broadcast "timestamp" with
  | some (.int n) => some (.inl n)
  | some (.bool b) => some (.inr b)
  | _ => none

def buildManifest (cast : Cast) (profileName version : Text) (profile : Profile)
    (broadcast artifact : Fields F) (contractName : Text) (broadcastPath : RunFile) :
    Except Refusal (Manifest F) := do
  let deployment ← findDeployment broadcast contractName
  validateProfile profileName profile broadcast deployment
  let (initcode, salt) ← deploymentInitcode cast deployment version
  let args := constructorArgs profile
  let bytecode ← creationBytecode initcode args
  let abi ← validateArtifact artifact bytecode
  if broadcastPath.name = "run-latest.json".toList then .error .latestBroadcast
  else
    match broadcastPath.relative with
    | none => .error .valueError
    | some relative =>
      let linkedData :=
        { version, chainId := profile.chainId, profile := profileName, broadcast := relative
          timestamp := timestampOf broadcast
          commit := asText (field broadcast "commit")
          create2 := salt.map fun salt => (create2Factory, salt) }
      let receipt ← normalizedReceipt deployment.receipt
      .ok
        { address := deployment.address
          abi
          bytecode
          transactionHash := deployment.hash
          receipt
          args
          linkedData }

end SwarmVolumes.Source.BuildManifest
