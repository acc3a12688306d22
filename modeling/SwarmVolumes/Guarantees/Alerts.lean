import SwarmVolumes.Source.Keeper.Sample
import SwarmVolumes.Source.Keeper.Telegram

/-!
# Alerts lose nothing silently

An alert shows some first issues whole and announces the number of the others. It is as
long as Telegram allows exactly when its header leaves room for the announcement of
every issue, and nothing bounds what the header is made of.
-/
namespace SwarmVolumes.Guarantees.Alerts
open Library Source Source.Keeper

variable {checksum : Address → String} {report : Report}

/-- A text of these issues whole and in order, and an announcement of the others. -/
structure Shows (checksum : Address → String) (report : Report) (text : String)
    (shown hidden : List KeeperIssue) : Prop where
  issues : shown ++ hidden = report.failures ++ report.warnings
  text : ∃ lines, lines <+: blocks report ∧ lines.filter isIssue = shown.map formatIssue ∧
    text = "\n".intercalate (header checksum report) ++ String.join (lines.map fun line => "\n" ++ line) ++
      if hidden = [] then "" else tail hidden.length

/-- What is promised of an alert. -/
structure Fits (checksum : Address → String) (report : Report) : Prop where
  short : size (formatTelegramMessage checksum report) ≤ telegramMaxLength
  complete : ∃ shown hidden, Shows checksum report (formatTelegramMessage checksum report) shown hidden

/-- The header, and the announcement of all issues if there are any, fit in a message. -/
def Short (checksum : Address → String) (report : Report) : Prop :=
  let issues := report.failures.length + report.warnings.length
  35 + size report.summary + size report.identity.deployment + size (chainText report.identity) +
      size (report.identity.registry.getD "unset") +
      (report.keeper.map fun keeper => 9 + size (checksum keeper)).getD 0 +
      (if issues = 0 then 0 else 31 + (toString issues).length) ≤ 4096

/-! ## The loop -/

theorem issueCount_cons_le (block : String) (later : List String) :
    issueCount later ≤ issueCount (block :: later) := by
  rw [issueCount, issueCount, List.filter_cons]
  split
  · exact Nat.le_succ _
  · exact Nat.le_refl _

/-- The text with the announcement of what is left fits before a block exactly when it
fits after it. -/
theorem size_fit (text : String) (blocks : List String) : size (fit text blocks) ≤ telegramMaxLength ↔
    size text + (if blocks = [] then 0 else size (tail (issueCount blocks))) ≤ telegramMaxLength := by
  induction blocks generalizing text with
  | nil => rfl
  | cons block later ih =>
    have fewer := size_tail_mono (issueCount_cons_le block later)
    have newline : size "\n" = 1 := by decide
    rw [fit, if_neg (List.cons_ne_nil _ _)]
    split
    · rw [size_append]
    · rename_i room
      rw [ih, size_append, size_append, newline]
      refine iff_of_true ?_ (by omega)
      split
      · omega
      · omega

/-- The loop takes the first blocks and announces the issues among the others. -/
theorem fit_takes (text : String) (blocks : List String) : ∃ taken left, taken ++ left = blocks ∧
    fit text blocks = text ++ String.join (taken.map fun line => "\n" ++ line) ++
      if left = [] then "" else tail (issueCount left) := by
  induction blocks generalizing text with
  | nil => exact ⟨[], [], rfl, by simp [fit]⟩
  | cons block later ih =>
    rw [fit]
    split
    · exact ⟨[], block :: later, rfl, by simp⟩
    · obtain ⟨taken, left, split, fitted⟩ := ih (text ++ ("\n" ++ block))
      refine ⟨block :: taken, left, by rw [List.cons_append, split], ?_⟩
      rw [fitted, List.map_cons, String.join_cons]
      simp only [String.append_assoc]

/-! ## The blocks -/

/-- Lines joined begin as the first one. -/
theorem intercalate_cons (separator line : String) (lines : List String) :
    ∃ more, separator.intercalate (line :: lines) = line ++ more := by
  cases lines with
  | nil => exact ⟨"", by simp⟩
  | cons next lines => exact ⟨_, by rw [String.intercalate_cons_cons, String.append_assoc]⟩

theorem isIssue_formatIssue (issue : KeeperIssue) : isIssue (formatIssue issue) = true := by
  obtain ⟨more, begins⟩ := intercalate_cons "\n" ("• " ++ issue.message)
    ((issue.volumeId.map fun volumeId => "  volume " ++ Hex.render volumeId).toList ++
      (issue.hash.map fun hash => "  tx " ++ Hex.render hash).toList)
  rw [formatIssue, List.append_assoc, List.singleton_append, begins, isIssue]
  simp

theorem isIssue_title (title : String) : isIssue ("\n" ++ title) = false := by
  simp [isIssue]

theorem sectionOf_issues (title : String) (issues : List KeeperIssue) :
    (sectionOf title issues).filter isIssue = issues.map formatIssue := by
  have all : (issues.map formatIssue).filter isIssue = issues.map formatIssue :=
    List.filter_eq_self.mpr (List.forall_mem_map.mpr fun issue _ => isIssue_formatIssue issue)
  unfold sectionOf
  split
  · rename_i empty
    rw [List.length_eq_zero_iff.mp empty]
    rfl
  · rw [List.filter_cons_of_neg (by simp [isIssue_title]), all]

theorem blocks_issues (report : Report) :
    (blocks report).filter isIssue = (report.failures ++ report.warnings).map formatIssue := by
  rw [blocks, List.filter_append, sectionOf_issues, sectionOf_issues, List.map_append]

/-- A section ends with an issue. -/
theorem sectionOf_last {title : String} {issues : List KeeperIssue} {last : String}
    (final : (sectionOf title issues).getLast? = some last) : isIssue last = true := by
  unfold sectionOf at final
  split at final
  · cases final
  · rename_i nonempty
    obtain ⟨issue, ends⟩ : ∃ issue, issues.getLast? = some issue :=
      ⟨_, List.getLast?_eq_some_getLast (mt List.length_eq_zero_iff.mpr nonempty)⟩
    rw [List.getLast?_cons, List.getLast?_map, ends] at final
    obtain rfl := Option.some.inj final
    exact isIssue_formatIssue issue

theorem blocks_last {last : String} (final : (blocks report).getLast? = some last) : isIssue last = true := by
  rw [blocks, List.getLast?_append] at final
  cases warned : (sectionOf "Warnings" report.warnings).getLast? with
  | none =>
    rw [warned, Option.none_or] at final
    exact sectionOf_last final
  | some block =>
    rw [warned, Option.some_or] at final
    rw [← Option.some.inj final]
    exact sectionOf_last warned

theorem blocks_nil : blocks report = [] ↔ report.failures.length + report.warnings.length = 0 := by
  have empty : ∀ title issues, sectionOf title issues = [] ↔ issues.length = 0 := by
    intro title issues
    unfold sectionOf
    split
    · exact iff_of_true rfl ‹_›
    · exact iff_of_false (List.cons_ne_nil _ _) ‹_›
  rw [blocks, List.append_eq_nil_iff, empty, empty]
  omega

/-! ## The message -/

theorem size_header (checksum : Address → String) (report : Report) :
    size ("\n".intercalate (header checksum report)) =
      35 + size report.summary + size report.identity.deployment + size (chainText report.identity) +
        size (report.identity.registry.getD "unset") +
        (report.keeper.map fun keeper => 9 + size (checksum keeper)).getD 0 := by
  have newline : size "\n" = 1 := by decide
  have space : size " " = 1 := by decide
  have icons : ∀ status, size (icon status) = 2 := by
    intro status
    cases status
    all_goals decide
  have deployment : size "Deployment: " = 12 := by decide
  have chain : size "Chain: " = 7 := by decide
  have registry : size "Registry: " = 10 := by decide
  have keeper : size "Keeper: " = 8 := by decide
  unfold header
  cases report.keeper with
  | none =>
    simp [String.intercalate_cons_cons, newline, space, icons, deployment, chain, registry]
    omega
  | some address =>
    simp [String.intercalate_cons_cons, newline, space, icons, deployment, chain, registry, keeper]
    omega

theorem short_iff : size (formatTelegramMessage checksum report) ≤ telegramMaxLength ↔
    Short checksum report := by
  have counted : issueCount (blocks report) = report.failures.length + report.warnings.length := by
    rw [issueCount, blocks_issues, List.length_map, List.length_append]
  rw [formatTelegramMessage, size_fit, size_header, Short, telegramMaxLength, counted, size_tail]
  by_cases none : report.failures.length + report.warnings.length = 0
  · simp only [blocks_nil.mpr none, none, if_true]
  · rw [if_neg (mt blocks_nil.mp none)]
    simp only [none, if_false]

/-- An alert never drops an issue without counting it. -/
theorem complete (checksum : Address → String) (report : Report) :
    ∃ shown hidden, Shows checksum report (formatTelegramMessage checksum report) shown hidden := by
  obtain ⟨taken, left, split, fitted⟩ := fit_takes ("\n".intercalate (header checksum report)) (blocks report)
  have issues := blocks_issues report
  rw [← split, List.filter_append] at issues
  obtain ⟨shown, hidden, parts, first, rest⟩ := List.append_eq_map_iff.mp issues
  have announced : issueCount left = hidden.length := by
    rw [issueCount, ← rest, List.length_map]
  have final : left = [] ↔ hidden = [] := by
    constructor
    · rintro rfl
      exact List.map_eq_nil_iff.mp rest
    · rintro rfl
      by_contra remains
      have last := List.getLast?_eq_some_getLast remains
      have whole : (blocks report).getLast? = some (left.getLast remains) := by
        rw [← split, List.getLast?_append, last, Option.some_or]
      have listed : left.getLast remains ∈ left.filter isIssue :=
        List.mem_filter.mpr ⟨List.getLast_mem remains, blocks_last whole⟩
      rw [← rest] at listed
      cases listed
  refine ⟨shown, hidden, parts.symm, taken, ⟨left, split⟩, first.symm, ?_⟩
  rw [formatTelegramMessage, fitted, announced]
  simp only [final]

/-- An alert is as promised exactly when its header is short. -/
theorem alert_fits_iff (checksum : Address → String) (report : Report) :
    Fits checksum report ↔ Short checksum report :=
  ⟨fun fits => short_iff.mp fits.short, fun short => ⟨short_iff.mpr short, complete checksum report⟩⟩

/-! ## A registry that is no address -/

/-- A registry of this many letters. -/
def longRegistry (n : Nat) : String := String.ofList (List.replicate n 'x')

def longEnv (n : Nat) : KeeperEnv := sampleEnv.rebind "REGISTRY_ADDRESS" (longRegistry n)

/-- The report on these bindings. -/
def longReport (n : Nat) : Report :=
  .aborted (abortedReport sampleRuntime.toPlatform ⟨readIdentity sampleRuntime (longEnv n), none, none, 0⟩
    (problems sampleRuntime (longEnv n)) none 0)

theorem longReport_registry {n : Nat} (positive : 0 < n) :
    (longReport n).identity.registry.getD "unset" = longRegistry n := by
  have solid : isSpace 'x' = false := by decide
  have trimmed : trim (List.replicate n 'x') = List.replicate n 'x' := by
    simp [trim, List.rdropWhile, solid]
  have bound : longEnv n "REGISTRY_ADDRESS" = some (longRegistry n) := by
    rw [longEnv, KeeperEnv.rebind, if_pos rfl]
  have read : text (longEnv n) "REGISTRY_ADDRESS" = longRegistry n := by
    rw [text, bound, Option.map_some, Option.getD_some, longRegistry, String.toList_ofList, trimmed]
  have nonempty : longRegistry n ≠ "" := by
    intro empty
    have letters := congrArg (fun text => text.toList.length) empty
    simp only [longRegistry, String.toList_ofList, List.length_replicate] at letters
    exact absurd letters (Nat.ne_of_gt positive)
  have kept : truthy (some (longRegistry n)) = some (longRegistry n) := by
    simp [truthy, Option.filter_some, nonempty]
  simp only [longReport, Report.identity, abortedReport, identityFields, readIdentity, read, kept,
    Option.getD_some]

theorem size_longRegistry (n : Nat) : size (longRegistry n) = n := by
  rw [size, longRegistry, String.toList_ofList, units, List.map_replicate, List.sum_replicate_nat]
  exact Nat.mul_one n

theorem long_registry_overflows : ¬ Fits (fun _ => "") (longReport 4096) := by
  intro fits
  have short := short_iff.mp fits.short
  unfold Short at short
  rw [longReport_registry (by decide), size_longRegistry] at short
  omega

end SwarmVolumes.Guarantees.Alerts
