import SwarmVolumes.Source.BuildManifest
import SwarmVolumes.Source.ExportDeployment

/-!
# A manifest describes what was deployed

For every broadcast and artifact that `build_manifest` accepts: the manifest is of the one
deployment of the contract, its bytecode and the encoding of its arguments are what was
deployed, and its arguments are those of the profile and of the broadcast.
-/
namespace SwarmVolumes.Guarantees.DeployedManifest
open Library Source Source.BuildManifest
open Library.Hex (isHexDigit hexDigit_spec)
open Library.PyText (lower lower_ascii)

variable {F : Type} {cast : Cast}

/-! ## The encoding of the arguments -/

/-- The ABI encoding of an address, an address, a `uint64` and a `bool`: of each a word of
32 bytes, most significant first. -/
def abiEncode (args : ConstructorArgs) : Text :=
  Hex.digits 64 (Hex.value (args.postageStamp.val.drop 2)) ++ Hex.digits 64 (Hex.value (args.bzz.val.drop 2)) ++
    Hex.digits 64 args.graceBlocks ++ Hex.digits 64 (if args.bzzPermitExpiry then 1 else 0)

/-- The same arguments, in any letter case of the addresses. -/
structure SameArgs (args args' : ConstructorArgs) : Prop where
  postageStamp : args.postageStamp.val.map Char.toLower = args'.postageStamp.val.map Char.toLower
  bzz : args.bzz.val.map Char.toLower = args'.bzz.val.map Char.toLower
  graceBlocks : args.graceBlocks = args'.graceBlocks
  bzzPermitExpiry : args.bzzPermitExpiry = args'.bzzPermitExpiry

theorem isHexText_spec {width : Nat} {text : Text} (hex : isHexText width text = true) :
    ∃ ds, text = '0' :: 'x' :: ds ∧ ds.length = width ∧ ∀ d ∈ ds, isHexDigit d = true := by
  unfold isHexText at hex
  split at hex
  · rename_i ds
    obtain ⟨counted, digits⟩ := of_decide_eq_true hex
    exact ⟨ds, rfl, counted, List.all_eq_true.mp digits⟩
  · cases hex

theorem ascii_of_hex {c : Char} (hex : isHexDigit c = true) : c.toNat < 128 := by
  obtain ⟨n, small, _, spelled⟩ := hexDigit_spec hex
  have plain : ∀ n < 16, (Nat.digitChar n).toNat < 128 := by decide
  by_contra large
  have upper : c.toLower = c := by
    unfold Char.toLower
    rw [dif_neg]
    rintro ⟨_, last⟩
    have : c.toNat ≤ 90 := last
    omega
  rw [upper] at spelled
  exact large (spelled ▸ plain n small)

/-- An address in its encoding. -/
theorem encode_address (address : AddressText) :
    (removePrefix (lower address)).leftpad 64 '0' = Hex.digits 64 (Hex.value (address.val.drop 2)) := by
  obtain ⟨ds, spelled, counted, hex⟩ := isHexText_spec address.property
  have ascii : ∀ c ∈ address.val, c.toNat < 128 := by
    rw [spelled]
    refine List.forall_mem_cons.mpr ⟨by decide, List.forall_mem_cons.mpr ⟨by decide, fun d member => ?_⟩⟩
    exact ascii_of_hex (hex d member)
  have digits := Hex.digits_value hex
  have small := Hex.value_lt hex
  rw [counted] at digits small
  have lowered : lower address.val = '0' :: 'x' :: ds.map Char.toLower := by
    rw [lower_ascii ascii, spelled]
    rfl
  rw [lowered, removePrefix, ← digits, Hex.leftpad_digits small (by decide), spelled]
  rfl

theorem encode_eq (args : ConstructorArgs) :
    encodeConstructorArgs args = abiEncode args := by
  have grace : args.graceBlocks < 16 ^ 64 := args.bounded.trans (by decide)
  rw [encodeConstructorArgs, encode_address, encode_address, format064x, format064x,
    Hex.leftpad_toDigits (by decide) grace, abiEncode]
  cases args.bzzPermitExpiry with
  | true => rfl
  | false => rfl

theorem length_abiEncode (args : ConstructorArgs) : (abiEncode args).length = 256 := by
  simp [abiEncode, Hex.length_digits]

theorem address_bound (address : AddressText) : Hex.value (address.val.drop 2) < 16 ^ 64 := by
  obtain ⟨ds, spelled, counted, hex⟩ := isHexText_spec address.property
  have small := Hex.value_lt hex
  rw [counted] at small
  rw [spelled]
  exact small.trans (by decide)

/-- The number of an address is the address in any letter case. -/
theorem address_value {address address' : AddressText} :
    Hex.value (address.val.drop 2) = Hex.value (address'.val.drop 2) ↔
      address.val.map Char.toLower = address'.val.map Char.toLower := by
  obtain ⟨ds, spelled, counted, hex⟩ := isHexText_spec address.property
  obtain ⟨ds', spelled', counted', hex'⟩ := isHexText_spec address'.property
  have small := Hex.value_lt hex
  have small' := Hex.value_lt hex'
  have digits := Hex.digits_value hex
  have digits' := Hex.digits_value hex'
  rw [counted] at small digits
  rw [counted'] at small' digits'
  rw [spelled, spelled']
  simp only [List.drop_succ_cons, List.drop_zero, List.map_cons, List.cons.injEq, true_and]
  rw [← digits, ← digits']
  exact ⟨fun same => by rw [same], Hex.digits_injective small small'⟩

theorem abiEncode_injective {args args' : ConstructorArgs} :
    abiEncode args = abiEncode args' ↔ SameArgs args args' := by
  constructor
  · intro same
    unfold abiEncode at same
    obtain ⟨first, flags⟩ := List.append_inj' same (by simp [Hex.length_digits])
    obtain ⟨addresses, graces⟩ := List.append_inj' first (by simp [Hex.length_digits])
    obtain ⟨stamps, tokens⟩ := List.append_inj' addresses (by simp [Hex.length_digits])
    refine ⟨address_value.mp ?_, address_value.mp ?_, ?_, ?_⟩
    · exact Hex.digits_injective (address_bound _) (address_bound _) stamps
    · exact Hex.digits_injective (address_bound _) (address_bound _) tokens
    · exact Hex.digits_injective (args.bounded.trans (by decide)) (args'.bounded.trans (by decide)) graces
    · revert flags
      cases args.bzzPermitExpiry
      all_goals cases args'.bzzPermitExpiry
      all_goals decide
  · intro same
    unfold abiEncode
    rw [address_value.mpr same.postageStamp, address_value.mpr same.bzz, same.graceBlocks,
      same.bzzPermitExpiry]

/-! ## What the validators find -/

/-- `a` is the one value of a list with a property. -/
def Only {α : Type} (p : α → Prop) (as : List α) (a : α) : Prop :=
  ∃ before after, as = before ++ a :: after ∧ p a ∧ ∀ b ∈ before ++ after, ¬ p b

/-- A CREATE or CREATE2 of the contract. -/
def Deploys (contractName : Text) (value : Document F) : Prop :=
  ∃ transaction, value = .obj transaction ∧
    (field transaction "transactionType" = some (.str create) ∨
      field transaction "transactionType" = some (.str create2)) ∧
    field transaction "contractName" = some (.str contractName)

/-- A receipt for the hash. -/
def ReceiptOf (hash : Text) (value : Document F) : Prop :=
  ∃ receipt text, value = .obj receipt ∧ field receipt "transactionHash" = some (.str text) ∧
    lower text = lower hash

/-- The value is the number, or a text of it: in base sixteen after `0x`, and in base ten
otherwise. -/
def Spells (value : Document F) (n : Int) : Prop :=
  value = .int n ∨ ∃ text, value = .str text ∧ PyText.int (ExportDeployment.base text) text = some n

theorem asText_some {value : Option (Document F)} {text : Text} :
    asText value = some text ↔ value = some (.str text) := by
  unfold asText
  split
  · simp
  · rename_i other
    exact iff_of_false nofun fun same => other text same

theorem asObject_some {value : Option (Document F)} {fields : Fields F} :
    asObject value = some fields ↔ value = some (.obj fields) := by
  unfold asObject
  split
  · simp
  · rename_i other
    exact iff_of_false nofun fun same => other fields same

theorem quantity_spells {value : Option (Document F)} {description : String} {n : Int}
    (ok : quantity value description = .ok n) : ∃ found, value = some found ∧ Spells found n := by
  replace ok := mapError_success ok
  unfold ExportDeployment.quantity at ok
  split at ok
  · cases ok
  · rename_i m read
    split at ok
    · cases ok
    · obtain rfl : m = n := Except.ok.inj ok
      unfold ExportDeployment.integer? at read
      split at read
      · exact ⟨_, rfl, .inl (congrArg Document.int (Option.some.inj read))⟩
      · exact ⟨_, rfl, .inr ⟨_, rfl, read⟩⟩
      · cases read

theorem flag_spells {value : Document F} {description : String} {b : Bool}
    (ok : flag value description = .ok b) :
    value = .bool b ∨ value = .str (if b then "true".toList else "false".toList) := by
  unfold flag at ok
  split at ok
  · exact .inl (congrArg Document.bool (Except.ok.inj ok))
  · split at ok
    · rename_i text spelled
      obtain rfl := Except.ok.inj ok
      exact .inr (congrArg Document.str spelled)
    · split at ok
      · rename_i text _ spelled
        obtain rfl := Except.ok.inj ok
        exact .inr (congrArg Document.str spelled)
      · cases ok
  · cases ok

/-- The one object that a filter leaves is the one value of the list that it keeps. -/
theorem only_of_filter {p : Document F → Prop} {keep : Fields F → Bool} {values : List (Document F)}
    {fields : Fields F} (agree : ∀ value, p value ↔ ∃ fields, value = .obj fields ∧ keep fields = true)
    (single : ((values.filterMap fun value => asObject (some value)).filter keep) = [fields]) :
    Only p values (.obj fields) := by
  induction values with
  | nil => cases single
  | cons value values ih =>
    by_cases here : p value
    · obtain ⟨fields', rfl, kept⟩ := (agree value).mp here
      replace single : (fields' :: values.filterMap fun value => asObject (some value)).filter keep =
          [fields] := single
      rw [List.filter_cons_of_pos kept] at single
      obtain ⟨rfl, none⟩ := List.cons.inj single
      refine ⟨[], values, rfl, here, fun other member holds => ?_⟩
      obtain ⟨fields'', rfl, kept'⟩ := (agree other).mp holds
      have listed : fields'' ∈ (values.filterMap fun value => asObject (some value)).filter keep :=
        List.mem_filter.mpr ⟨List.mem_filterMap.mpr ⟨_, member, rfl⟩, kept'⟩
      rw [none] at listed
      cases listed
    · have skipped : ((values.filterMap fun value => asObject (some value)).filter keep) = [fields] := by
        rw [List.filterMap_cons] at single
        split at single
        · exact single
        · rename_i fields' object
          have refused : ¬ keep fields' = true := fun kept =>
            here ((agree value).mpr ⟨fields', Option.some.inj (asObject_some.mp object), kept⟩)
          rwa [List.filter_cons_of_neg refused] at single
      obtain ⟨before, after, split, holds, others⟩ := ih skipped
      exact ⟨value :: before, after, by rw [split, List.cons_append], holds,
        List.forall_mem_cons.mpr ⟨here, others⟩⟩

theorem only_deployment {transactions : List (Document F)} {contractName : Text} {transaction : Fields F}
    (single : deployments transactions contractName = [transaction]) :
    Only (Deploys contractName) transactions (.obj transaction) := by
  refine only_of_filter (fun value => ?_) single
  simp only [Deploys, decide_eq_true_eq, asText_some]

theorem only_receipt {receipts : List (Document F)} {hash : Text} {receipt : Fields F}
    (single : receiptsOf receipts hash = [receipt]) :
    Only (ReceiptOf hash) receipts (.obj receipt) := by
  refine only_of_filter (fun value => ?_) single
  simp only [ReceiptOf, decide_eq_true_eq, Option.map_eq_some_iff, asText_some]
  constructor
  · rintro ⟨receipt, text, object, recorded, same⟩
    exact ⟨receipt, object, text, recorded, same⟩
  · rintro ⟨receipt, object, text, recorded, same⟩
    exact ⟨receipt, text, object, recorded, same⟩

/-- What `find_deployment` finds. -/
structure Found (broadcast : Fields F) (contractName : Text) (found : Deployment F) : Prop where
  transaction : ∃ transactions, field broadcast "transactions" = some (.arr transactions) ∧
    Only (Deploys contractName) transactions (.obj found.transaction)
  receipt : ∃ receipts, field broadcast "receipts" = some (.arr receipts) ∧
    Only (ReceiptOf found.hash) receipts (.obj found.receipt)
  hash : field found.transaction "hash" = some (.str found.hash)
  address : field found.transaction "contractAddress" = some (.str found.address)
  status : ∃ status, field found.receipt "status" = some status ∧ Spells status 1
  creation : checkCreation found.transaction found.receipt found.address = .ok ()

theorem findDeployment_success {broadcast : Fields F} {contractName : Text} {found : Deployment F}
    (ok : findDeployment broadcast contractName = .ok found) : Found broadcast contractName found := by
  unfold findDeployment at ok
  split at ok
  · rename_i transactions listed
    split at ok
    · rename_i transaction single
      split at ok
      · cases ok
      · rename_i hash hashed
        split at ok
        · split at ok
          · cases ok
          · rename_i address addressed
            split at ok
            · split at ok
              · rename_i receipts recorded
                split at ok
                · rename_i receipt one
                  obtain ⟨status, read, ok⟩ := bind_success ok
                  split at ok
                  · rename_i succeeded
                    obtain ⟨_, creation, ok⟩ := bind_success ok
                    obtain rfl := Except.ok.inj ok
                    exact
                      { transaction := ⟨transactions, listed, only_deployment single⟩
                        receipt := ⟨receipts, recorded, only_receipt one⟩
                        hash := asText_some.mp hashed
                        address := asText_some.mp addressed
                        status := quantity_spells (succeeded ▸ read)
                        creation }
                  · cases ok
                · cases ok
              · cases ok
            · cases ok
        · cases ok
    · cases ok
  · cases ok

/-- The initcode that was deployed, and how it fixes the address. -/
inductive Deployed (cast : Cast) (version : Text) (transaction receipt : Fields F) (address : Text) :
    Text → Option (Text × Text) → Prop
  | create {initcode created : Text} (type : field transaction "transactionType" = some (.str create))
      (deployed : input transaction = some initcode)
      (named : field receipt "contractAddress" = some (.str created))
      (same : lower created = lower address) :
      Deployed cast version transaction receipt address initcode none
  | create2 {data salt derived : Text} (type : field transaction "transactionType" = some (.str create2))
      (deployed : input transaction = some ('0' :: 'x' :: data))
      (released : releaseSalt version = .ok salt) (salted : salt = '0' :: 'x' :: lower (data.take 64))
      (derives : create2Address cast create2Factory salt ('0' :: 'x' :: data.drop 64) = .ok derived)
      (same : lower derived = lower address) :
      Deployed cast version transaction receipt address ('0' :: 'x' :: data.drop 64)
        (some (create2Factory, salt))

theorem Found.type {broadcast : Fields F} {contractName : Text} {found : Deployment F}
    (facts : Found broadcast contractName found) :
    field found.transaction "transactionType" = some (.str create) ∨
      field found.transaction "transactionType" = some (.str create2) := by
  obtain ⟨_, _, _, _, _, ⟨transaction, object, type, _⟩, _⟩ := facts.transaction
  rwa [Document.obj.inj object]

theorem deploymentInitcode_success {broadcast : Fields F} {contractName version initcode : Text}
    {found : Deployment F} {salt : Option Text} (facts : Found broadcast contractName found)
    (ok : deploymentInitcode cast found version = .ok (initcode, salt)) :
    Deployed cast version found.transaction found.receipt found.address initcode
      (salt.map fun salt => (create2Factory, salt)) := by
  have creation := facts.creation
  unfold deploymentInitcode at ok
  unfold checkCreation at creation
  split at ok
  · rename_i data deployed
    split at ok
    · rename_i type
      rw [if_pos type] at creation
      split at creation
      · rename_i named
        obtain ⟨created, text, same⟩ := Option.map_eq_some_iff.mp named
        cases ok
        exact .create (asText_some.mp type) deployed (asText_some.mp text) same
      · cases creation
    · rename_i other
      have type := facts.type.resolve_left (mt asText_some.mpr other)
      obtain ⟨salt', released, ok⟩ := bind_success ok
      split at ok
      · rename_i salted
        obtain ⟨derived, derives, ok⟩ := bind_success ok
        split at ok
        · rename_i same
          cases ok
          subst salted
          exact .create2 type deployed released rfl derives same
        · cases ok
      · cases ok
  · cases ok

/-- The arguments the transaction records are these: addresses in any letter case, a number
or a text of it, a boolean or a text of it. -/
structure Recorded (transaction : Fields F) (args : ConstructorArgs) : Prop where
  arguments : ∃ postageStamp bzz graceBlocks bzzPermitExpiry,
    field transaction "arguments" = some (.arr [.str postageStamp, .str bzz, graceBlocks, bzzPermitExpiry]) ∧
    lower postageStamp = lower args.postageStamp ∧ lower bzz = lower args.bzz ∧
    Spells graceBlocks args.graceBlocks ∧ (bzzPermitExpiry = .bool args.bzzPermitExpiry ∨
      bzzPermitExpiry = .str (if args.bzzPermitExpiry then "true".toList else "false".toList))

theorem matchesArg_address {name : String} (address : name = "PostageStamp" ∨ name = "BZZ")
    {recorded : Document F} {wanted : Text} (ok : matchesArg name recorded (.str wanted) = .ok true) :
    ∃ text, recorded = .str text ∧ lower text = lower wanted := by
  unfold matchesArg at ok
  rw [if_pos address] at ok
  split at ok
  · rename_i text wanted' same
    obtain rfl := Document.str.inj same
    exact ⟨text, rfl, of_decide_eq_true (Except.ok.inj ok)⟩
  · cases Except.ok.inj ok

theorem matchesArg_graceBlocks {recorded : Document F} {wanted : Int}
    (ok : matchesArg "graceBlocks" recorded (.int wanted) = .ok true) : Spells recorded wanted := by
  unfold matchesArg at ok
  rw [if_neg (by decide), if_pos rfl] at ok
  obtain ⟨n, read, ok⟩ := bind_success ok
  obtain ⟨found, same, spells⟩ := quantity_spells read
  rw [Option.some.inj same, ← of_decide_eq_true (Except.ok.inj ok)]
  exact spells

theorem matchesArg_bzzPermitExpiry {recorded : Document F} {wanted : Bool}
    (ok : matchesArg "bzzPermitExpiry" recorded (.bool wanted) = .ok true) :
    recorded = .bool wanted ∨ recorded = .str (if wanted then "true".toList else "false".toList) := by
  unfold matchesArg at ok
  rw [if_neg (by decide), if_neg (by decide)] at ok
  obtain ⟨b, read, ok⟩ := bind_success ok
  rw [← of_decide_eq_true (Except.ok.inj ok)]
  exact flag_spells read

/-- A loop that finds no mismatch went through every argument. -/
theorem firstMismatch_cons {name : String} {recorded wanted : Document F}
    {rest : List (String × Document F × Document F)}
    (ok : firstMismatch ((name, recorded, wanted) :: rest) = .ok none) :
    matchesArg name recorded wanted = .ok true ∧ firstMismatch rest = .ok none := by
  obtain ⟨same, matched, ok⟩ := bind_success ok
  split at ok
  · rename_i agree
    exact ⟨agree ▸ matched, ok⟩
  · cases Except.ok.inj ok

theorem validateProfile_success {profileName : Text} {profile : Profile} {broadcast : Fields F}
    {found : Deployment F} (ok : validateProfile profileName profile broadcast found = .ok ()) :
    (∃ chain, field broadcast "chain" = some chain ∧ Spells chain profile.chainId) ∧
      Recorded found.transaction (constructorArgs profile) := by
  obtain ⟨chainId, read, ok⟩ := bind_success ok
  split at ok
  · rename_i same
    refine ⟨quantity_spells (same ▸ read), ?_⟩
    split at ok
    · rename_i arguments recorded
      split at ok
      · rename_i counted
        obtain ⟨mismatch, looped, ok⟩ := bind_success ok
        cases mismatch with
        | some name => cases ok
        | none =>
          obtain ⟨stamp, token, grace, expiry, rfl⟩ : ∃ a b c d, arguments = [a, b, c, d] := by
            match arguments, counted with
            | [a, b, c, d], _ => exact ⟨a, b, c, d, rfl⟩
          obtain ⟨first, looped⟩ := firstMismatch_cons looped
          obtain ⟨second, looped⟩ := firstMismatch_cons looped
          obtain ⟨third, looped⟩ := firstMismatch_cons looped
          obtain ⟨fourth, _⟩ := firstMismatch_cons looped
          obtain ⟨postageStamp, rfl, stamped⟩ := matchesArg_address (.inl rfl) first
          obtain ⟨bzz, rfl, token⟩ := matchesArg_address (.inr rfl) second
          exact ⟨⟨_, _, _, _, recorded, stamped, token, matchesArg_graceBlocks third,
            matchesArg_bzzPermitExpiry fourth⟩⟩
      · cases ok
    · cases ok
  · cases ok

theorem creationBytecode_success {initcode bytecode : Text} {args : ConstructorArgs}
    (ok : creationBytecode initcode args = .ok bytecode) :
    lower initcode = bytecode ++ encodeConstructorArgs args := by
  unfold creationBytecode at ok
  dsimp only at ok
  split at ok
  · rename_i suffix
    obtain rfl := Except.ok.inj ok
    obtain ⟨front, split⟩ := suffix
    rw [← split, List.length_append, Nat.add_sub_cancel, List.take_left]
  · cases ok

theorem validateArtifact_success {artifact : Fields F} {bytecode : Text} {abi : List (Document F)}
    (ok : validateArtifact artifact bytecode = .ok abi) : field artifact "abi" = some (.arr abi) ∧
    ∃ object, bytecodeObject artifact = some object ∧ bytecode = lower object := by
  unfold validateArtifact at ok
  split at ok
  · rename_i listed
    split at ok
    · rename_i object
      split at ok
      · rename_i same
        obtain rfl := Except.ok.inj ok
        exact ⟨listed, _, object, same.symm⟩
      · cases ok
    · cases ok
  · cases ok

/-! ## The manifest -/

/-- The values of a profile are those of its table. -/
structure ReadFrom (table : Fields F) (profile : Profile) : Prop where
  chainId : field table "chain_id" = some (.int profile.chainId)
  postageStamp : field table "postage_stamp" = some (.str profile.postageStamp)
  bzz : field table "bzz" = some (.str profile.bzz)
  graceBlocks : field table "grace_blocks" = some (.int profile.graceBlocks)
  bzzPermitExpiry : field table "bzz_permit_expiry" = some (.bool profile.bzzPermitExpiry)

theorem profileAddress_success {name : Text} {table : Fields F} {key : String} {address : AddressText}
    (ok : profileAddress name table key = .ok address) : field table key = some (.str address) := by
  unfold profileAddress at ok
  split at ok
  · rename_i found
    split at ok
    · rw [found, ← Except.ok.inj ok]
    · cases ok
  · cases ok

theorem loadProfile_success {profiles : Fields F} {name : Text} {profile : Profile}
    (ok : loadProfile profiles name = .ok profile) :
    ∃ table, profiles.get? name = some (.obj table) ∧ ReadFrom table profile := by
  unfold loadProfile at ok
  split at ok
  · cases ok
  · rename_i table listed
    obtain ⟨_, _, ok⟩ := bind_success ok
    obtain ⟨postageStamp, stamp, ok⟩ := bind_success ok
    obtain ⟨bzz, token, ok⟩ := bind_success ok
    split at ok
    · rename_i chainId chain
      split at ok
      · rename_i grace graced
        split at ok
        · rename_i bounded
          split at ok
          · rename_i bzzPermitExpiry expiry
            obtain rfl := Except.ok.inj ok
            refine ⟨table, listed, chain, profileAddress_success stamp, profileAddress_success token, ?_, expiry⟩
            rw [graced, Int.toNat_of_nonneg bounded.1]
          · cases ok
        · cases ok
      · cases ok
    · cases ok
  · cases ok

/-- The manifest is of this transaction and this receipt, the only ones, and of what they
deployed. -/
structure Describes (cast : Cast) (version contractName : Text) (broadcast artifact : Fields F)
    (manifest : Manifest F) (transaction receipt : Fields F) : Prop where
  onlyDeployment : ∃ transactions, field broadcast "transactions" = some (.arr transactions) ∧
    Only (Deploys contractName) transactions (.obj transaction)
  onlyReceipt : ∃ receipts, field broadcast "receipts" = some (.arr receipts) ∧
    Only (ReceiptOf manifest.transactionHash) receipts (.obj receipt)
  transactionHash : field transaction "hash" = some (.str manifest.transactionHash)
  address : field transaction "contractAddress" = some (.str manifest.address)
  succeeded : ∃ status, field receipt "status" = some status ∧ Spells status 1
  recorded : Recorded transaction manifest.args
  bytecode : ∃ object, bytecodeObject artifact = some object ∧ manifest.bytecode = lower object
  deployed : ∃ initcode,
    Deployed cast version transaction receipt manifest.address initcode manifest.linkedData.create2 ∧
    lower initcode = manifest.bytecode ++ abiEncode manifest.args

theorem buildManifest_success {profileName version contractName : Text}
    {profile : Profile} {broadcast artifact : Fields F} {broadcastPath : RunFile} {manifest : Manifest F}
    (built : buildManifest cast profileName version profile broadcast artifact contractName broadcastPath =
      .ok manifest) : manifest.args = constructorArgs profile ∧
    ∃ transaction receipt,
      Describes cast version contractName broadcast artifact manifest transaction receipt := by
  obtain ⟨found, finds, ok⟩ := bind_success built
  obtain ⟨_, validated, ok⟩ := bind_success ok
  obtain ⟨⟨initcode, salt⟩, initcoded, ok⟩ := bind_success ok
  obtain ⟨bytecode, stripped, ok⟩ := bind_success ok
  obtain ⟨abi, compiled, ok⟩ := bind_success ok
  split at ok
  · cases ok
  · split at ok
    · cases ok
    · obtain ⟨receipt, _, ok⟩ := bind_success ok
      obtain rfl := Except.ok.inj ok
      have facts := findDeployment_success finds
      refine ⟨rfl, found.transaction, found.receipt, ?_⟩
      exact
        { onlyDeployment := facts.transaction
          onlyReceipt := facts.receipt
          transactionHash := facts.hash
          address := facts.address
          succeeded := facts.status
          recorded := (validateProfile_success validated).2
          bytecode := (validateArtifact_success compiled).2
          deployed := ⟨initcode, deploymentInitcode_success facts initcoded,
            encode_eq _ ▸ creationBytecode_success stripped⟩ }

/-- A manifest describes what was deployed, with the profile's arguments; different arguments
have different encodings, of one length. -/
theorem manifest_describes_deployment {profiles : Fields F}
    {profileName version contractName : Text} {profile : Profile}
    (loaded : loadProfile profiles profileName = .ok profile) {broadcast artifact : Fields F}
    {broadcastPath : RunFile} {manifest : Manifest F}
    (built : buildManifest cast profileName version profile broadcast artifact contractName broadcastPath =
      .ok manifest) :
    (∃ transaction receipt,
      Describes cast version contractName broadcast artifact manifest transaction receipt) ∧
    (∃ table, profiles.get? profileName = some (.obj table) ∧ ReadFrom table profile) ∧
    manifest.args = constructorArgs profile ∧
    ∀ args args' : ConstructorArgs, (encodeConstructorArgs args).length = 256 ∧
      (encodeConstructorArgs args = encodeConstructorArgs args' ↔ SameArgs args args') := by
  obtain ⟨args, described⟩ := buildManifest_success built
  refine ⟨described, loadProfile_success loaded, args, fun args args' => ?_⟩
  rw [encode_eq, encode_eq]
  exact ⟨length_abiEncode args, abiEncode_injective⟩

/-! ## A salted deployment -/

def sampleAddress (c : Char) : Text := '0' :: 'x' :: List.replicate 40 c

def sampleProfiles : Fields Unit :=
  [("gnosis".toList, .obj
    [("chain_id".toList, .int 100), ("postage_stamp".toList, .str (sampleAddress 'B')),
      ("bzz".toList, .str (sampleAddress 'c')), ("grace_blocks".toList, .int 17280),
      ("bzz_permit_expiry".toList, .bool true)])]

def sampleSalt : Text := '7' :: '6' :: '3' :: '1' :: List.replicate 60 '0'

def sampleHash : Text := '0' :: 'x' :: List.replicate 64 'd'

/-- The encoding of the sample's arguments, in the letter case of the profile. -/
def sampleEncoding : Text :=
  List.replicate 24 '0' ++ List.replicate 40 'B' ++ List.replicate 24 '0' ++ List.replicate 40 'c' ++
    List.replicate 60 '0' ++ ['4', '3', '8', '0'] ++ List.replicate 63 '0' ++ ['1']

/-- The address of the sample's initcode, as `cast` spells it. -/
def sampleContract : Text := "0xC7D5f6F96d74b138ADe63C80A45636d16c60200b".toList

def sampleCast : Cast := fun factory salt initcode =>
  if factory = create2Factory ∧ salt = '0' :: 'x' :: sampleSalt ∧
      initcode = '0' :: 'x' :: '6' :: '0' :: sampleEncoding then
    some ("Computed Address: ".toList ++ sampleContract)
  else none

def sampleTransaction : Fields Unit :=
  [("transactionType".toList, .str create2), ("contractName".toList, .str "VolumeRegistry".toList),
    ("hash".toList, .str sampleHash), ("contractAddress".toList, .str (lower sampleContract)),
    ("arguments".toList, .arr [.str (sampleAddress 'b'), .str (sampleAddress 'C'), .str "17280".toList,
      .str "true".toList]),
    ("transaction".toList, .obj [("to".toList, .str create2Factory),
      ("input".toList, .str ('0' :: 'x' :: (sampleSalt ++ ['6', '0'] ++ sampleEncoding)))])]

def sampleReceipt : Fields Unit :=
  [("transactionHash".toList, .str sampleHash), ("status".toList, .str "0x1".toList),
    ("to".toList, .str create2Factory)]

def sampleBroadcast : Fields Unit :=
  [("chain".toList, .int 100), ("transactions".toList, .arr [.obj sampleTransaction]),
    ("receipts".toList, .arr [.obj sampleReceipt])]

def sampleArtifact : Fields Unit :=
  [("abi".toList, .arr []), ("bytecode".toList, .obj [("object".toList, .str "0x60".toList)])]

def sampleRun : RunFile := ⟨"run-1.json".toList, some "broadcast/run-1.json".toList⟩

theorem manifest_describes_deployment_sample : ∃ profile manifest,
    loadProfile sampleProfiles "gnosis".toList = .ok profile ∧
    buildManifest sampleCast "gnosis".toList ['v', '1'] profile sampleBroadcast sampleArtifact
      "VolumeRegistry".toList sampleRun = .ok manifest ∧
    ∃ transaction receipt, Describes sampleCast ['v', '1'] "VolumeRegistry".toList sampleBroadcast
      sampleArtifact manifest transaction receipt := by
  have accepted : (loadProfile sampleProfiles "gnosis".toList >>= fun profile =>
      buildManifest sampleCast "gnosis".toList ['v', '1'] profile sampleBroadcast sampleArtifact
        "VolumeRegistry".toList sampleRun).isOk = true := by
    decide +kernel
  obtain ⟨manifest, built⟩ := success_of_isOk accepted
  obtain ⟨profile, loaded, built⟩ := bind_success built
  exact ⟨profile, manifest, loaded, built, (manifest_describes_deployment loaded built).1⟩

end SwarmVolumes.Guarantees.DeployedManifest
