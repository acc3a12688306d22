import SwarmVolumes.Library.HexText
import SwarmVolumes.Source.Keeper.Report

/-!
# The configuration

`config.ts`, and of `index.ts` the scrubber of a run and the `/health` response. A
binding is its string, and one of another type reads as an unset one. Each check gives
the problems it pushes; `readConfig` has them in the order of the source.
-/
namespace SwarmVolumes.Source.Keeper
open Library
open Library.Hex (isHexDigit)

abbrev KeeperEnv : Type := String → Option String

/-- `Number`, where the number is an integer, `String.prototype.toLowerCase`, and
viem's `isAddress` and `privateKeyToAccount`, which throws on a key out of range. -/
structure Runtime extends Platform where
  number : String → Option Int
  toLowerCase : String → String
  isAddress : String → Bool
  privateKeyToAccount : String → Option String

structure Chain where
  id : Nat
  name : String
  deriving DecidableEq, Repr

/-- `CHAINS`, in the order of its keys. -/
def chains : List Chain := [⟨100, "Gnosis"⟩, ⟨11155111, "Sepolia"⟩]

/-- `CHAINS[chainId]`. -/
def chainAt (chainId : Option Int) : Option Chain :=
  chains.find? fun chain => some (chain.id : Int) = chainId

structure TelegramConfig where
  botToken : String
  chatId : String
  deriving DecidableEq, Repr

structure CycleLimits where
  maxVolumesPerCycle : Nat
  pageSize : Nat
  cycleTimeoutMs : Nat
  receiptTimeoutMs : Nat
  confirmations : Nat
  deriving DecidableEq, Repr

structure Config where
  deployment : String
  chain : Chain
  registry : String
  privateKey : String
  endpoints : List String
  telegram : TelegramConfig
  notifyWarnings : Bool
  minBalanceWei : Nat
  mode : Mode
  dryRun : Bool
  limits : CycleLimits
  deriving DecidableEq, Repr

/-! ## The shapes of the bindings -/

/-- `\w`. -/
def isWordCharacter (c : Char) : Bool := c.isAlphanum ∨ c = '_'

def isHexWord : List Char → Bool
  | '0' :: 'x' :: digits => digits.length = 64 ∧ digits.all isHexDigit
  | _ => false

/-- `PRIVATE_KEY`. -/
def isPrivateKey (text : String) : Bool := isHexWord text.toList

/-- `VOLUME_ID`. -/
def isVolumeId (text : String) : Bool := isHexWord text.toList

/-- `\d+`. -/
def allDigits (text : List Char) : Bool := text ≠ [] ∧ text.all Char.isDigit

/-- `DIGITS`. -/
def isDigits (text : String) : Bool := allDigits text.toList

/-- `BOT_TOKEN`. -/
def isBotToken (text : String) : Bool :=
  match text.toList.dropWhile Char.isDigit with
  | ':' :: secret =>
    allDigits (text.toList.takeWhile Char.isDigit) ∧ secret ≠ [] ∧
      secret.all fun c => isWordCharacter c ∨ c = '-'
  | _ => false

/-- `CHAT_ID`. -/
def isChatId (text : String) : Bool :=
  match text.toList with
  | '@' :: first :: name => first.isAlpha ∧ 3 ≤ name.length ∧ name.all isWordCharacter
  | '-' :: digits => allDigits digits
  | digits => allDigits digits

def isHttpUrl (platform : Platform) (raw : String) : Bool :=
  match platform.parseUrl raw with
  | some url => url.protocol = "https:" ∨ url.protocol = "http:"
  | none => false

/-! ## Reading the bindings -/

def text (env : KeeperEnv) (key : String) : String :=
  String.ofList (((env key).map fun value => trim value.toList).getD [])

def list (raw : String) : List String :=
  (((raw.toList.splitOn ',').map trim).filter fun entry => entry ≠ []).map String.ofList

/-- `BigInt`, of a string of digits. -/
def decimal (digits : String) : Nat := Nat.ofDigitChars 10 digits.toList 0

/-- A volume id as the word it spells. -/
def wordOf (id : String) : Bytes32 :=
  (id.toList.drop 2).foldl (fun word c => word * 16 + BitVec.ofNat 256 ((Json.hexDigit? c).getD 0)) 0

def readIdentity (rt : Runtime) (env : KeeperEnv) : DeploymentIdentity :=
  let chainId := rt.number (text env "CHAIN_ID")
  { deployment := (truthy (some (text env "DEPLOYMENT_NAME"))).getD "keeper (DEPLOYMENT_NAME unset)"
    chainId := (chainId.filter fun id => 0 < id).map Int.toNat
    chainName := (chainAt chainId).map Chain.name
    registry := truthy (some (text env "REGISTRY_ADDRESS")) }

/-- A binding that must be set and of a shape, and what is said of one that is not. -/
def required (key : String) (shape : String → Bool) (wrong : String → String) (value : String) :
    List String :=
  if value = "" then [key ++ " is required"] else if shape value then [] else [wrong value]

def chainIdProblems (rt : Runtime) (rawChainId : String) : List String :=
  match chainAt (rt.number rawChainId) with
  | some _ => []
  | none =>
    ["CHAIN_ID " ++ (if rawChainId ≠ "" then rawChainId ++ " is not supported" else "is required") ++
      " (supported: " ++ ", ".intercalate (chains.map fun chain => toString chain.id) ++ ")"]

def registryProblems (rt : Runtime) (registry : String) : List String :=
  if rt.isAddress registry then []
  else [if registry ≠ "" then "REGISTRY_ADDRESS is not a valid address: " ++ registry
    else "REGISTRY_ADDRESS is required"]

def privateKeyProblems : String → List String :=
  required "PRIVATE_KEY" isPrivateKey fun _ =>
    "PRIVATE_KEY must be a 0x-prefixed 32-byte hex string"

def endpointProblems (platform : Platform) (endpoints : List String) : List String :=
  (if endpoints.length = 0 then ["RPC_URL is required"] else []) ++
    endpoints.zipIdx.flatMap fun (url, i) =>
      if isHttpUrl platform url then []
      else ["RPC_URL entry " ++ toString (i + 1) ++ " is not an http(s) URL"]

def botTokenProblems : String → List String :=
  required "TELEGRAM_BOT_TOKEN" isBotToken fun _ =>
    "TELEGRAM_BOT_TOKEN does not look like a bot token (<id>:<secret>)"

/-- Unlike the other secrets', the value is part of the message. -/
def chatIdProblems : String → List String :=
  required "TELEGRAM_CHAT_ID" isChatId fun chatId =>
    "TELEGRAM_CHAT_ID must be a numeric chat id or @channel: " ++ chatId

def volumeIdProblems (volumeIds : List String) : List String :=
  volumeIds.flatMap fun id =>
    if isVolumeId id then [] else ["VOLUME_IDS entry is not a 32-byte hex string: " ++ id]

def minBalanceProblems (rawBalance : String) : List String :=
  if rawBalance = "" then ["MIN_BALANCE_WEI is required (0 disables the warning)"]
  else if isDigits rawBalance then []
  else ["MIN_BALANCE_WEI must be a whole number of wei, got \"" ++ rawBalance ++ "\""]

/-- A flag, and the problems with it. -/
def flag (rt : Runtime) (env : KeeperEnv) (key : String) : Bool × List String :=
  let raw := rt.toLowerCase (text env key)
  if raw = "" ∨ raw = "false" then (false, [])
  else if raw = "true" then (true, [])
  else (false, [key ++ " must be \"true\" or \"false\", got \"" ++ raw ++ "\""])

/-- A count up to `Number.MAX_SAFE_INTEGER`, and the problems with it. -/
def count (env : KeeperEnv) (key : String) (fallback : Option Nat) : Nat × List String :=
  let raw := text env key
  if raw = "" then
    match fallback with
    | some fallback => (fallback, [])
    | none => (0, [key ++ " is required"])
  else if isDigits raw ∧ 1 ≤ decimal raw ∧ decimal raw < 2 ^ 53 then (decimal raw, [])
  else (0, [key ++ " must be a positive integer, got \"" ++ raw ++ "\""])

def maxVolumesPerCycle (env : KeeperEnv) : Nat × List String := count env "MAX_VOLUMES_PER_CYCLE" none
def pageSize (env : KeeperEnv) : Nat × List String := count env "PAGE_SIZE" (some 100)
def cycleTimeoutMs (env : KeeperEnv) : Nat × List String := count env "CYCLE_TIMEOUT_MS" none
def receiptTimeoutMs (env : KeeperEnv) : Nat × List String := count env "RECEIPT_TIMEOUT_MS" none
def confirmations (env : KeeperEnv) : Nat × List String := count env "CONFIRMATIONS" (some 1)

/-- The problems of each binding, in the order they are pushed. -/
def checks (rt : Runtime) (env : KeeperEnv) : List (List String) :=
  [if text env "DEPLOYMENT_NAME" = "" then ["DEPLOYMENT_NAME is required"] else [],
    chainIdProblems rt (text env "CHAIN_ID"),
    registryProblems rt (text env "REGISTRY_ADDRESS"),
    privateKeyProblems (text env "PRIVATE_KEY"),
    endpointProblems rt.toPlatform (list (text env "RPC_URL")),
    botTokenProblems (text env "TELEGRAM_BOT_TOKEN"),
    chatIdProblems (text env "TELEGRAM_CHAT_ID"),
    volumeIdProblems (list (text env "VOLUME_IDS")),
    minBalanceProblems (text env "MIN_BALANCE_WEI"),
    (flag rt env "NOTIFY_WARNINGS").2,
    (flag rt env "DRY_RUN").2,
    (maxVolumesPerCycle env).2,
    (pageSize env).2,
    (cycleTimeoutMs env).2,
    (receiptTimeoutMs env).2,
    (confirmations env).2]

def problems (rt : Runtime) (env : KeeperEnv) : List String := (checks rt env).flatten

def config (rt : Runtime) (env : KeeperEnv) (chain : Chain) : Config :=
  let rawBalance := text env "MIN_BALANCE_WEI"
  let volumeIds := list (text env "VOLUME_IDS")
  { deployment := text env "DEPLOYMENT_NAME"
    chain
    registry := text env "REGISTRY_ADDRESS"
    privateKey := text env "PRIVATE_KEY"
    endpoints := list (text env "RPC_URL")
    telegram := { botToken := text env "TELEGRAM_BOT_TOKEN", chatId := text env "TELEGRAM_CHAT_ID" }
    notifyWarnings := (flag rt env "NOTIFY_WARNINGS").1
    minBalanceWei := if isDigits rawBalance then decimal rawBalance else 0
    mode := if volumeIds.length ≠ 0 then .selected (volumeIds.map wordOf) else .all
    dryRun := (flag rt env "DRY_RUN").1
    limits :=
      { maxVolumesPerCycle := (maxVolumesPerCycle env).1
        pageSize := (pageSize env).1
        cycleTimeoutMs := (cycleTimeoutMs env).1
        receiptTimeoutMs := (receiptTimeoutMs env).1
        confirmations := (confirmations env).1 } }

/-- The configuration, or the problems of a `ConfigError`. -/
def readConfig (rt : Runtime) (env : KeeperEnv) : Except (List String) Config :=
  match chainAt (rt.number (text env "CHAIN_ID")), problems rt env with
  | some chain, [] => .ok (config rt env chain)
  | _, problems => .error problems

theorem chainAt_of_valid {rt : Runtime} {rawChainId : String}
    (valid : chainIdProblems rt rawChainId = []) :
    ∃ chain, chainAt (rt.number rawChainId) = some chain := by
  unfold chainIdProblems at valid
  split at valid
  · rename_i chain found
    exact ⟨chain, found⟩
  · cases valid

theorem passed {rt : Runtime} {env : KeeperEnv} {check : List String}
    (clean : problems rt env = []) (made : check ∈ checks rt env) : check = [] :=
  List.flatten_eq_nil_iff.mp clean check made

theorem readConfig_of_clean {rt : Runtime} {env : KeeperEnv} (clean : problems rt env = []) :
    ∃ chain, readConfig rt env = .ok (config rt env chain) := by
  have valid : chainIdProblems rt (text env "CHAIN_ID") = [] := passed clean (by simp [checks])
  obtain ⟨chain, supported⟩ := chainAt_of_valid valid
  refine ⟨chain, ?_⟩
  simp only [readConfig, supported, clean]

theorem readConfig_of_problems {rt : Runtime} {env : KeeperEnv} (faulty : problems rt env ≠ []) :
    readConfig rt env = .error (problems rt env) := by
  unfold readConfig
  split
  · rename_i clean
    exact absurd clean faulty
  · rfl

/-- What an accepted configuration holds, and that no binding has a problem. -/
theorem readConfig_ok {rt : Runtime} {env : KeeperEnv} {accepted : Config}
    (read : readConfig rt env = .ok accepted) :
    problems rt env = [] ∧ ∃ chain, accepted = config rt env chain := by
  by_cases clean : problems rt env = []
  · obtain ⟨chain, result⟩ := readConfig_of_clean clean
    rw [result] at read
    exact ⟨clean, chain, (Except.ok.inj read).symm⟩
  · rw [readConfig_of_problems clean] at read
    cases read

theorem shape_of_required {key : String} {shape : String → Bool} {wrong : String → String}
    {value : String} (valid : required key shape wrong value = []) : shape value = true := by
  unfold required at valid
  split_ifs at valid with _ shaped
  exact shaped

theorem http_of_endpoints {platform : Platform} {endpoints : List String}
    (valid : endpointProblems platform endpoints = []) {url : String} (member : url ∈ endpoints) :
    isHttpUrl platform url = true := by
  unfold endpointProblems at valid
  have each := List.flatMap_eq_nil_iff.mp (List.append_eq_nil_iff.mp valid).2
  obtain ⟨i, place⟩ := List.mem_iff_getElem?.mp member
  have entry := each (url, i) (List.mk_mem_zipIdx_iff_getElem?.mpr place)
  dsimp only at entry
  split_ifs at entry with valid
  exact valid

/-! ## Lists of entries -/

theorem trim_concat (last : List Char) {c : Char} (space : isSpace c = true) :
    trim (last ++ [c]) = trim last := by
  unfold trim
  rw [List.dropWhile_append]
  split
  · rename_i blank
    rw [List.isEmpty_iff.mp blank, List.dropWhile_cons_of_pos space]
    rfl
  · exact List.rdropWhile_concat_pos _ _ _ space

theorem comma_not_space {c : Char} (space : isSpace c = true) : (c == ',') = false := by
  refine beq_eq_false_iff_ne.mpr fun same => ?_
  rw [same] at space
  exact absurd space (by decide)

/-- A space at the end belongs to the last entry. -/
theorem splitOn_concat (cs : List Char) {c : Char} (space : isSpace c = true) :
    ∃ front last, cs.splitOn ',' = front ++ [last] ∧ (cs ++ [c]).splitOn ',' = front ++ [last ++ [c]] := by
  induction cs with
  | nil =>
    refine ⟨[], [], List.splitOn_nil _, ?_⟩
    simp [List.splitOn_cons_eq_if_modifyHead, comma_not_space space]
  | cons d cs ih =>
    obtain ⟨front, last, whole, longer⟩ := ih
    rw [List.cons_append, List.splitOn_cons_eq_if_modifyHead, List.splitOn_cons_eq_if_modifyHead,
      whole, longer]
    split
    · exact ⟨[] :: front, last, rfl, rfl⟩
    · cases front with
      | nil => exact ⟨[], d :: last, rfl, rfl⟩
      | cons first front => exact ⟨(d :: first) :: front, last, rfl, rfl⟩

theorem entries_dropWhile (cs : List Char) :
    ((cs.dropWhile isSpace).splitOn ',').map trim = (cs.splitOn ',').map trim := by
  induction cs with
  | nil => rfl
  | cons c cs ih =>
    by_cases space : isSpace c = true
    · rw [List.dropWhile_cons_of_pos space, ih, List.splitOn_cons_eq_if_modifyHead,
        if_neg (by simp [comma_not_space space])]
      cases cs.splitOn ',' with
      | nil => rfl
      | cons first rest =>
        have same : trim (c :: first) = trim first := by
          rw [trim, List.dropWhile_cons_of_pos space, trim]
        rw [List.modifyHead_cons, List.map_cons, List.map_cons, same]
    · rw [List.dropWhile_cons_of_neg space]

theorem entries_rdropWhile (cs : List Char) :
    ((cs.rdropWhile isSpace).splitOn ',').map trim = (cs.splitOn ',').map trim := by
  induction cs using List.reverseRecOn with
  | nil => rw [List.rdropWhile_nil]
  | append_singleton cs c ih =>
    by_cases space : isSpace c = true
    · obtain ⟨front, last, whole, longer⟩ := splitOn_concat cs space
      rw [List.rdropWhile_concat_pos _ _ _ space, ih, whole, longer]
      simp [trim_concat last space]
    · rw [List.rdropWhile_concat_neg _ _ _ space]

/-- Trimming the whole of a list of entries changes none of them. -/
theorem list_trim (raw : String) : list (String.ofList (trim raw.toList)) = list raw := by
  unfold list
  rw [String.toList_ofList, trim, entries_rdropWhile, entries_dropWhile]

/-- The endpoints of a run are those the scrubber is armed with. -/
theorem list_text (env : KeeperEnv) (key : String) : list (text env key) = list ((env key).getD "") := by
  unfold text
  cases env key with
  | none => rfl
  | some raw => exact list_trim raw

/-! ## The scrubber of a run -/

/-- The pairs of `runScheduled`, from the raw bindings. -/
def scrubber (platform : Platform) (env : KeeperEnv) : List (String × String) :=
  scrubPairs platform (list ((env "RPC_URL").getD ""))
    [(env "TELEGRAM_BOT_TOKEN").getD "", (env "PRIVATE_KEY").getD ""]

/-! ## `GET /health` -/

structure Response where
  status : Nat
  body : Json

def textField (key value : String) : List Char × Json := (key.toList, .str value.toList)

/-- The fields of an identity, without the absent ones. -/
def identityJson (identity : DeploymentIdentity) : List (List Char × Json) :=
  [textField "deployment" identity.deployment] ++
    (identity.chainId.map fun id => ("chainId".toList, .int id)).toList ++
    (identity.chainName.map (textField "chainName")).toList ++
    (identity.registry.map (textField "registry")).toList

/-- The response to `/health`, unless deriving the wallet throws. -/
def health (rt : Runtime) (env : KeeperEnv) : Option Response :=
  match readConfig rt env with
  | .ok config => do
    let keeper ← rt.privateKeyToAccount config.privateKey
    return {
      status := 200
      body := .obj
        [textField "status" "configured",
          textField "deployment" config.deployment,
          ("chainId".toList, .int config.chain.id),
          textField "chainName" config.chain.name,
          textField "registry" config.registry,
          textField "keeper" keeper,
          ("dryRun".toList, .bool config.dryRun)] }
  | .error problems =>
    some
      { status := 503
        body := .obj
          ([textField "status" "misconfigured"] ++ identityJson (readIdentity rt env) ++
            [("problems".toList, .arr (problems.map fun problem => .str problem.toList))]) }

end SwarmVolumes.Source.Keeper
