import SwarmVolumes.Library.Dict
import SwarmVolumes.Library.Document
import SwarmVolumes.Source.Keeper.Cycle
import Mathlib.Data.List.Infix
import Mathlib.Data.List.DropRight

/-!
# Reports

`reporting.ts` and the end of `scheduled` in `index.ts`: the report of a cycle,
its verdict, and the exception that fails the invocation. Texts are Unicode
strings here, so a text is cut at a number of code points; a length that is only
compared counts UTF-16 units (`units`). What the keeper asks of the platform for its
texts, URL parsing and the decimal form of an amount of wei, is a parameter.
-/
namespace SwarmVolumes.Source.Keeper
open Library

/-! ## Texts -/

structure Url where
  protocol : String
  host : String
  pathname : String
  search : String
  href : String
  deriving DecidableEq, Repr

/-- `new URL`, which throws on what is no URL, and viem's `formatEther`. -/
structure Platform where
  parseUrl : String → Option Url
  formatEther : Nat → String

/-- `length`, in UTF-16 units. -/
def units (text : List Char) : Nat := (text.map fun c => if c.toNat < 65536 then 1 else 2).sum

/-- An empty string is as good as none. -/
def truthy (text : Option String) : Option String := text.filter fun text => text ≠ ""

def plural (n : Nat) (noun : String) : String := s!"{n} {noun}" ++ if n = 1 then "" else "s"

def redact (platform : Platform) (url : String) : String :=
  match platform.parseUrl url with
  | some u =>
    if u.pathname = "/" ∧ u.search = "" then u.protocol ++ "//" ++ u.host
    else u.protocol ++ "//" ++ u.host ++ "/…"
  | none => "<malformed url>"

/-- The characters `String.prototype.trim` removes. -/
def isSpace (c : Char) : Bool :=
  (9 ≤ c.toNat ∧ c.toNat ≤ 13) ∨ (0x2000 ≤ c.toNat ∧ c.toNat ≤ 0x200A) ∨
    c.toNat ∈ [32, 0xA0, 0x1680, 0x2028, 0x2029, 0x202F, 0x205F, 0x3000, 0xFEFF]

def trim (text : List Char) : List Char := (text.dropWhile isSpace).rdropWhile isSpace

/-- The headline of an error, with its `Details:` line when it has one. -/
def brief (message : String) : String :=
  let max : Nat := 200
  let lines := ((message.toList.splitOn '\n').map trim).filter fun line => line ≠ []
  let head := lines.headD message.toList
  let details := (lines.find? fun line => "Details:".toList <+: line).map fun line =>
    trim (line.drop 8)
  let text :=
    match details with
    | some details =>
      if details ≠ [] ∧ ¬ details <:+: head then
        (if head.getLast? = some '.' then head.dropLast else head) ++ ": ".toList ++ details
      else head
    | none => head
  String.ofList (if max < text.length then text.take (max - 1) ++ ['…'] else text)

/-! ## The report of a cycle -/

structure EndpointHealth where
  url : String
  ok : Bool
  latencyMs : Nat
  error : Option String
  deriving DecidableEq, Repr

structure DeploymentIdentity where
  deployment : String
  chainId : Option Nat
  chainName : Option String
  registry : Option String
  deriving DecidableEq, Repr

structure RunInput where
  identity : DeploymentIdentity
  cron : Option String
  scheduledTime : Option Int
  startedAt : Int
  deriving DecidableEq, Repr

structure CycleReportInput extends RunInput where
  symbol : String
  keeper : Address
  dryRun : Bool
  endpoints : List EndpointHealth
  result : CycleResult
  balanceWei : Option Nat
  minBalanceWei : Nat
  deriving DecidableEq, Repr

inductive RunStatus where
  | ok | warning | failure
  deriving DecidableEq, Repr

def RunStatus.text : RunStatus → String
  | .ok => "ok"
  | .warning => "warning"
  | .failure => "failure"

structure ReportedEndpoint where
  endpoint : String
  ok : Bool
  latencyMs : Nat
  error : Option String
  deriving DecidableEq, Repr

structure ReportedVolume where
  volumeId : Bytes32
  status : VolumeStatus
  summary : Option VolumeSummary
  hash : Option Bytes32
  blockNumber : Option String
  gasUsed : Option String
  error : Option String
  deriving DecidableEq, Repr

structure KeeperReport extends RunInput where
  status : RunStatus
  summary : String
  keeper : Address
  dryRun : Bool
  blockNumber : Option String
  balanceWei : Option String
  volumeCount : Nat
  outcomes : Dict String Nat
  endpoints : List ReportedEndpoint
  failures : List KeeperIssue
  warnings : List KeeperIssue
  volumes : List ReportedVolume
  durationMs : Int
  deriving DecidableEq, Repr

def statusOf (failures warnings : List KeeperIssue) : RunStatus :=
  if failures.length > 0 then .failure else if warnings.length > 0 then .warning else .ok

def summarize (deployment : String) (status : RunStatus) (failures warnings : List KeeperIssue)
    (detail : String) : String :=
  match status with
  | .failure =>
    let volumes := (failures.filter fun f => f.volumeId.isSome).length
    if volumes > 0 then deployment ++ ": " ++ plural volumes "volume" ++ " failed"
    else deployment ++ ": run failed — " ++ (failures.head?.map KeeperIssue.message).getD ""
  | .warning => deployment ++ ": " ++ detail ++ ", " ++ plural warnings.length "warning"
  | .ok => deployment ++ ": " ++ detail

/-- Absent fields and empty texts are left out. -/
def identityFields (run : RunInput) : RunInput :=
  { run with
    identity := { run.identity with
      chainName := truthy run.identity.chainName
      registry := truthy run.identity.registry }
    cron := truthy run.cron }

def reportEndpoint (platform : Platform) (e : EndpointHealth) : ReportedEndpoint :=
  { endpoint := redact platform e.url, ok := e.ok, latencyMs := e.latencyMs,
    error := (truthy e.error).map brief }

/-- At most `MAX_LOGGED_ERROR` characters of an error. -/
def reportVolume (v : VolumeResult) : ReportedVolume :=
  { volumeId := v.volumeId, status := v.status, summary := v.summary, hash := v.hash,
    blockNumber := v.blockNumber.map toString, gasUsed := v.gasUsed.map toString,
    error := (truthy v.error).map fun error => String.ofList (error.toList.take 2000) }

def endpointWarnings (platform : Platform) (endpoints : List EndpointHealth) : List KeeperIssue :=
  let warnings := (endpoints.filter fun e => !e.ok).map fun e =>
    { message := "RPC " ++ redact platform e.url ++ " is unusable: " ++
        brief (e.error.getD "unknown error") : KeeperIssue }
  match endpoints.find? EndpointHealth.ok, endpoints.head? with
  | some usable, some first =>
    if first.ok then warnings
    else warnings ++
      [{ message := "primary RPC " ++ redact platform first.url ++ " is down; failed over to " ++
          redact platform usable.url }]
  | _, _ => warnings

def balanceWarnings (platform : Platform) (input : CycleReportInput) : List KeeperIssue :=
  match input.balanceWei with
  | none => [{ message := "could not read the keeper wallet balance" }]
  | some balanceWei =>
    if 0 < input.minBalanceWei ∧ balanceWei < input.minBalanceWei then
      [{ message := "keeper balance " ++ platform.formatEther balanceWei ++ " " ++ input.symbol ++
          " is below the floor of " ++ platform.formatEther input.minBalanceWei ++ " " ++
          input.symbol }]
    else []

/-- The body of the loop over the volumes. -/
def volumeFailure (volume : VolumeResult) : Option KeeperIssue :=
  if volume.status ≠ .failed ∧ volume.status ≠ .reverted then none
  else some
    { volumeId := some volume.volumeId
      hash := volume.hash
      message :=
        if volume.status = .reverted then "transaction reverted"
        else brief (volume.error.getD "transaction failed") }

/-- An empty error is not reported. -/
def failures (result : CycleResult) : List KeeperIssue :=
  let error :=
    match truthy result.error with
    | some error => [{ message := brief error }]
    | none => []
  error ++ result.volumes.filterMap volumeFailure

def VolumeSummary.outcome : VolumeSummary → String
  | .toppedUp _ => "toppedUp"
  | .retired _ => "retired"
  | .topupSkipped _ => "topupSkipped"
  | .noop => "noop"

def VolumeStatus.text : VolumeStatus → String
  | .success => "success"
  | .reverted => "reverted"
  | .simulated => "simulated"
  | .failed => "failed"

/-- `volume.outcome ?? volume.status`. -/
def outcomeKey (volume : VolumeResult) : String :=
  (volume.summary.map VolumeSummary.outcome).getD volume.status.text

def outcomes (volumes : List VolumeResult) : Dict String Nat :=
  volumes.foldl (fun outcomes volume =>
    outcomes.update (outcomeKey volume) fun count => count.getD 0 + 1) []

/-- `cycleReport`, at the time `now`. -/
def cycleReport (platform : Platform) (input : CycleReportInput) (now : Int) : KeeperReport :=
  let result := input.result
  let failures := failures result
  let warnings := endpointWarnings platform input.endpoints ++
    (if input.dryRun then [{ message := "dry run: nothing was sent" }] else []) ++
    balanceWarnings platform input ++ result.warnings
  let status := statusOf failures warnings
  let detail := (truthy result.skipped).getD
    (plural result.volumes.length "volume" ++ s!" of {result.volumeCount} " ++
      if input.dryRun then "simulated" else "triggered")
  { identityFields input.toRunInput with
    status
    summary := summarize input.identity.deployment status failures warnings detail
    keeper := input.keeper
    dryRun := input.dryRun
    blockNumber := result.blockNumber.map fun blockNumber => toString blockNumber.toNat
    balanceWei := input.balanceWei.map toString
    volumeCount := result.volumeCount
    outcomes := outcomes result.volumes
    endpoints := input.endpoints.map (reportEndpoint platform)
    failures
    warnings
    volumes := result.volumes.map reportVolume
    durationMs := now - input.startedAt }

/-! ## The end of a run -/

/-- `text.split(from).join(to)`. -/
def replaceAll (src dst : List Char) : List Char → List Char
  | [] => []
  | c :: text =>
    if src <+: c :: text then dst ++ replaceAll src dst ((c :: text).drop (max 1 src.length))
    else c :: replaceAll src dst text
termination_by text => text.length
decreasing_by
  · simp only [List.length_drop, List.length_cons]
    omega
  · simp

/-- What a configured URL is recognised by: as given, without trailing slashes, and
in the form the platform writes it. -/
def variants (platform : Platform) (url : String) : List String :=
  let plain := String.ofList (url.toList.rdropWhile fun c => c = '/')
  ([url, plain] ++ ((platform.parseUrl url).map Url.href).toList).eraseDups

/-- The pairs of `makeScrubber`: each secret with what replaces it, longest first. -/
def scrubPairs (platform : Platform) (rpcUrls others : List String) : List (String × String) :=
  let pairs := rpcUrls.flatMap (fun url => (variants platform url).map (·, redact platform url)) ++
    others.map (·, "<redacted>")
  let usable := pairs.filter fun pair => 8 ≤ units pair.1.toList
  usable.mergeSort fun a b => units b.1.toList ≤ units a.1.toList

def scrub (pairs : List (String × String)) (text : String) : String :=
  String.ofList (pairs.foldl (fun acc pair => replaceAll pair.1.toList pair.2.toList acc) text.toList)

/-- Every string of a report, however deep. -/
def scrubReport (report : Json) (scrub : String → String) : Json :=
  report.mapStrings fun text => (scrub (String.ofList text)).toList

theorem units_append (text text' : List Char) : units (text ++ text') = units text + units text' := by
  rw [units, List.map_append, List.sum_append]
  rfl

theorem units_le_of_infix {text text' : List Char} (inside : text <:+: text') :
    units text ≤ units text' := by
  obtain ⟨before, after, rfl⟩ := inside
  rw [units_append, units_append]
  omega

theorem replaceAll_absent {src dst text : List Char} (absent : ¬ src <:+: text) :
    replaceAll src dst text = text := by
  induction text with
  | nil => rw [replaceAll]
  | cons c text ih =>
    rw [List.infix_cons_iff, not_or] at absent
    rw [replaceAll, if_neg absent.1, ih absent.2]

theorem scrub_absent {pairs : List (String × String)} {text : String}
    (absent : ∀ pair ∈ pairs, ¬ pair.1.toList <:+: text.toList) : scrub pairs text = text := by
  have kept : pairs.foldl (fun acc pair => replaceAll pair.1.toList pair.2.toList acc) text.toList =
      text.toList := by
    induction pairs with
    | nil => rfl
    | cons pair pairs ih =>
      rw [List.foldl_cons, replaceAll_absent (absent pair (List.mem_cons_self ..))]
      exact ih fun pair' member => absent pair' (List.mem_cons_of_mem _ member)
  rw [scrub, kept, String.ofList_toList]

/-- Nothing shorter than eight characters counts as a secret. -/
theorem scrubPairs_long {platform : Platform} {rpcUrls others : List String}
    {pair : String × String} (member : pair ∈ scrubPairs platform rpcUrls others) :
    8 ≤ units pair.1.toList := by
  unfold scrubPairs at member
  rw [List.mem_mergeSort, List.mem_filter] at member
  exact of_decide_eq_true member.2

/-- What `scheduled` throws, if it throws: of the report, it reads the status and the
summary that `scrubReport` left. -/
def scheduled (platform : Platform) (rpcUrls others : List String) (report : KeeperReport) :
    Option String :=
  let pairs := scrubPairs platform rpcUrls others
  if scrub pairs report.status.text = "failure" then some (scrub pairs report.summary) else none

end SwarmVolumes.Source.Keeper
