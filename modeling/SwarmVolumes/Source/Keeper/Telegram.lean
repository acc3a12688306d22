import SwarmVolumes.Library.Hex
import SwarmVolumes.Source.Keeper.Report

/-!
# Alerts

`abortedReport` of `reporting.ts`, and of `telegram.ts` the text of a message. The
spelling of an address, which has a checksum in its letter case, is a parameter.
-/
namespace SwarmVolumes.Source.Keeper
open Library

/-! ## A run that stopped before the cycle -/

structure AbortedReport extends RunInput where
  status : RunStatus
  summary : String
  endpoints : Option (List ReportedEndpoint)
  failures : List KeeperIssue
  warnings : List KeeperIssue
  durationMs : Int
  deriving DecidableEq, Repr

/-- `abortedReport`, at the time `now`. -/
def abortedReport (platform : Platform) (run : RunInput) (problems : List String)
    (endpoints : Option (List EndpointHealth)) (now : Int) : AbortedReport :=
  let failures := problems.map fun message => { message : KeeperIssue }
  { identityFields run with
    status := .failure
    summary := summarize run.identity.deployment .failure failures [] ""
    endpoints := endpoints.map fun endpoints => endpoints.map (reportEndpoint platform)
    failures
    warnings := []
    durationMs := now - run.startedAt }

/-- A report of either kind; only a run that reached the cycle has a keeper. -/
inductive Report where
  | aborted (report : AbortedReport)
  | cycle (report : KeeperReport)
  deriving DecidableEq, Repr

namespace Report

def identity : Report → DeploymentIdentity
  | aborted report => report.identity
  | cycle report => report.identity

def status : Report → RunStatus
  | aborted report => report.status
  | cycle report => report.status

def summary : Report → String
  | aborted report => report.summary
  | cycle report => report.summary

def keeper : Report → Option Address
  | aborted _ => none
  | cycle report => some report.keeper

def failures : Report → List KeeperIssue
  | aborted report => report.failures
  | cycle report => report.failures

def warnings : Report → List KeeperIssue
  | aborted report => report.warnings
  | cycle report => report.warnings

end Report

/-! ## The message -/

/-- `TELEGRAM_MAX_LENGTH`. -/
def telegramMaxLength : Nat := 4096

/-- `length` of a text. -/
def size (text : String) : Nat := units text.toList

/-- `ICON`. -/
def icon : RunStatus → String
  | .failure => "🔴"
  | .warning => "🟡"
  | .ok => "🟢"

def chainText (identity : DeploymentIdentity) : String :=
  match identity.chainId with
  | none => "unknown (CHAIN_ID unset or invalid)"
  | some chainId => identity.chainName.getD "unsupported chain" ++ " (" ++ toString chainId ++ ")"

def header (checksum : Address → String) (report : Report) : List String :=
  [icon report.status ++ " " ++ report.summary,
    "Deployment: " ++ report.identity.deployment,
    "Chain: " ++ chainText report.identity,
    "Registry: " ++ report.identity.registry.getD "unset"] ++
    (report.keeper.map fun keeper => "Keeper: " ++ checksum keeper).toList

def formatIssue (issue : KeeperIssue) : String :=
  "\n".intercalate
    (["• " ++ issue.message] ++
      (issue.volumeId.map fun volumeId => "  volume " ++ Hex.render volumeId).toList ++
      (issue.hash.map fun hash => "  tx " ++ Hex.render hash).toList)

/-- One of the `sections`, without issues nothing. -/
def sectionOf (title : String) (issues : List KeeperIssue) : List String :=
  if issues.length = 0 then [] else ("\n" ++ title) :: issues.map formatIssue

def blocks (report : Report) : List String :=
  sectionOf "Failures" report.failures ++ sectionOf "Warnings" report.warnings

/-- `b.startsWith("•")`. -/
def isIssue (block : String) : Bool := ['•'] <+: block.toList

/-- The blocks of issues among these. -/
def issueCount (blocks : List String) : Nat := (blocks.filter isIssue).length

def tail (rest : Nat) : String := "\n… and " ++ toString rest ++ " more — see Workers Logs"

/-- Whole blocks until the next, with a tail after it, would overflow. -/
def fit (text : String) : List String → String
  | [] => text
  | block :: later =>
    let tail := tail (issueCount (block :: later))
    if telegramMaxLength < size text + 1 + size block + size tail then text ++ tail
    else fit (text ++ ("\n" ++ block)) later

def formatTelegramMessage (checksum : Address → String) (report : Report) : String :=
  fit ("\n".intercalate (header checksum report)) (blocks report)

/-! ## Sizes -/

@[simp] theorem size_append (text text' : String) : size (text ++ text') = size text + size text' := by
  rw [size, String.toList_append, units_append]
  rfl

/-- Digits take one unit each. -/
theorem units_digits {text : List Char} (digits : ∀ c ∈ text, c.isDigit = true) : units text = text.length := by
  induction text with
  | nil => rfl
  | cons c text ih =>
    have small : c.toNat < 65536 := by
      have digit := digits c (List.mem_cons_self ..)
      simp only [Char.isDigit, Bool.and_eq_true, decide_eq_true_eq] at digit
      have upper : c.toNat ≤ 57 := digit.2
      omega
    have rest := ih fun c' member => digits c' (List.mem_cons_of_mem _ member)
    rw [units, List.map_cons, List.sum_cons, if_pos small, List.length_cons]
    rw [units] at rest
    omega

theorem size_toString (n : Nat) : size (toString n) = (toString n).length := by
  have digits : ∀ c ∈ (toString n).toList, c.isDigit = true := by
    intro c member
    change c ∈ (Nat.repr n).toList at member
    rw [Nat.toList_repr] at member
    exact Nat.isDigit_of_mem_toDigits (by decide) (by decide) member
  rw [size, units_digits digits]
  rfl

theorem size_tail (rest : Nat) : size (tail rest) = 31 + (toString rest).length := by
  have first : size "\n… and " = 7 := by decide
  have last : size " more — see Workers Logs" = 24 := by decide
  rw [tail, size_append, size_append, first, last, size_toString]
  omega

/-- A tail that announces less is no longer. -/
theorem size_tail_mono {few many : Nat} (order : few ≤ many) : size (tail few) ≤ size (tail many) := by
  have digits : (toString few).length ≤ (toString many).length := by
    have bounded := (Nat.length_repr_le_iff (n := many) Nat.length_repr_pos).mp (Nat.le_refl _)
    exact (Nat.length_repr_le_iff Nat.length_repr_pos).mpr (Nat.lt_of_le_of_lt order bounded)
  rw [size_tail, size_tail]
  omega

end SwarmVolumes.Source.Keeper
