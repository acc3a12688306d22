import SwarmVolumes.Source.Keeper.Sample

/-!
# What configuration problems reveal

The problems of a refused configuration go to the logs, to Telegram and to a public
page, unscrubbed, so they should say which secret is wrong and nothing about its
value. Two environments whose secrets are of the same classes are compared: every
check but one gives both the same problems (`checks_congr`). The check of
`TELEGRAM_CHAT_ID` quotes what it refuses, so two malformed chat ids can be told
apart, and nothing else can (`indistinguishable_iff`).
-/
namespace SwarmVolumes.Guarantees.ConfigProblems
open Library SwarmVolumes.Source.Keeper

/-- `secrets.required`. -/
def requiredSecrets : List String :=
  ["PRIVATE_KEY", "RPC_URL", "TELEGRAM_BOT_TOKEN", "TELEGRAM_CHAT_ID"]

inductive SecretClass where
  | unset | wellFormed | malformed
  deriving DecidableEq, Repr

def classOf (shape : String → Bool) (value : String) : SecretClass :=
  if value = "" then .unset else if shape value then .wellFormed else .malformed

/-- The plain bindings are the same, and each secret is of the same class. -/
structure Alike (rt : Runtime) (env env' : KeeperEnv) : Prop where
  plain : ∀ key, key ∉ requiredSecrets → env key = env' key
  privateKey : classOf isPrivateKey (text env "PRIVATE_KEY") =
    classOf isPrivateKey (text env' "PRIVATE_KEY")
  endpoints : (list (text env "RPC_URL")).map (isHttpUrl rt.toPlatform) =
    (list (text env' "RPC_URL")).map (isHttpUrl rt.toPlatform)
  botToken : classOf isBotToken (text env "TELEGRAM_BOT_TOKEN") =
    classOf isBotToken (text env' "TELEGRAM_BOT_TOKEN")
  chatId : classOf isChatId (text env "TELEGRAM_CHAT_ID") =
    classOf isChatId (text env' "TELEGRAM_CHAT_ID")

/-- Accepted, or refused with some problems. -/
def verdict (rt : Runtime) (env : KeeperEnv) : Except (List String) Unit :=
  (readConfig rt env).map fun _ => ()

/-- Both are accepted or both are refused with the same problems, and the page of a
refused one is the page of the other. -/
structure Indistinguishable (rt : Runtime) (env env' : KeeperEnv) : Prop where
  outcome : verdict rt env = verdict rt env'
  page : verdict rt env ≠ .ok () → health rt env = health rt env'

variable {rt : Runtime} {env env' : KeeperEnv}

theorem verdict_eq (rt : Runtime) (env : KeeperEnv) :
    verdict rt env = if problems rt env = [] then .ok () else .error (problems rt env) := by
  unfold verdict
  split
  · rename_i clean
    obtain ⟨chain, accepted⟩ := readConfig_of_clean clean
    rw [accepted]
    rfl
  · rename_i faulty
    rw [readConfig_of_problems faulty]
    rfl

theorem verdict_eq_iff (rt : Runtime) (env env' : KeeperEnv) :
    verdict rt env = verdict rt env' ↔ problems rt env = problems rt env' := by
  rw [verdict_eq, verdict_eq]
  constructor
  · intro same
    split at same <;> split at same
    · rename_i clean clean'
      rw [clean, clean']
    · cases same
    · cases same
    · exact Except.error.inj same
  · intro same
    rw [same]

/-- A check whose message leaves the value out goes by the class of the value. -/
theorem required_congr {key : String} {shape : String → Bool} {message value value' : String}
    (same : classOf shape value = classOf shape value') :
    required key shape (fun _ => message) value = required key shape (fun _ => message) value' := by
  unfold classOf at same
  unfold required
  split_ifs at same ⊢ <;> rfl

/-- The problems with the endpoints go by the position of each and its verdict. -/
theorem endpointProblems_congr {platform : Platform} {urls urls' : List String}
    (same : urls.map (isHttpUrl platform) = urls'.map (isHttpUrl platform)) :
    endpointProblems platform urls = endpointProblems platform urls' := by
  have by_verdicts : ∀ urls, endpointProblems platform urls =
      (if (urls.map (isHttpUrl platform)).length = 0 then ["RPC_URL is required"] else []) ++
        (urls.map (isHttpUrl platform)).zipIdx.flatMap fun (valid, i) =>
          if valid then []
          else ["RPC_URL entry " ++ toString (i + 1) ++ " is not an http(s) URL"] := by
    intro urls
    rw [List.length_map, List.zipIdx_map, List.flatMap_map]
    rfl
  rw [by_verdicts, by_verdicts, same]

section Alike
variable (alike : Alike rt env env') {key : String} (plain : key ∉ requiredSecrets)
include alike plain

theorem text_congr : text env key = text env' key := by
  unfold text
  rw [alike.plain key plain]

theorem flag_congr : flag rt env key = flag rt env' key := by
  unfold flag
  rw [text_congr alike plain]

theorem count_congr (fallback : Option Nat) : count env key fallback = count env' key fallback := by
  unfold count
  rw [text_congr alike plain]

end Alike

/-- Every check but that of the chat id gives both environments the same problems. -/
theorem checks_congr (alike : Alike rt env env') :
    checks rt env' = (checks rt env).set 6 (chatIdProblems (text env' "TELEGRAM_CHAT_ID")) := by
  have plain : ∀ key, key ∉ requiredSecrets → text env' key = text env key :=
    fun _ plain => (text_congr alike plain).symm
  have flags : ∀ key, key ∉ requiredSecrets → flag rt env' key = flag rt env key :=
    fun _ plain => (flag_congr alike plain).symm
  have counts : ∀ key fallback, key ∉ requiredSecrets →
      count env' key fallback = count env key fallback :=
    fun _ fallback plain => (count_congr alike plain fallback).symm
  have privateKey : privateKeyProblems (text env' "PRIVATE_KEY") =
      privateKeyProblems (text env "PRIVATE_KEY") := (required_congr alike.privateKey).symm
  have botToken : botTokenProblems (text env' "TELEGRAM_BOT_TOKEN") =
      botTokenProblems (text env "TELEGRAM_BOT_TOKEN") := (required_congr alike.botToken).symm
  simp only [checks, maxVolumesPerCycle, pageSize, cycleTimeoutMs, receiptTimeoutMs, confirmations,
    List.set, privateKey, botToken, ← endpointProblems_congr alike.endpoints,
    plain "DEPLOYMENT_NAME" (by decide), plain "CHAIN_ID" (by decide),
    plain "REGISTRY_ADDRESS" (by decide), plain "VOLUME_IDS" (by decide),
    plain "MIN_BALANCE_WEI" (by decide), flags "NOTIFY_WARNINGS" (by decide),
    flags "DRY_RUN" (by decide), counts "MAX_VOLUMES_PER_CYCLE" none (by decide),
    counts "PAGE_SIZE" (some 100) (by decide), counts "CYCLE_TIMEOUT_MS" none (by decide),
    counts "RECEIPT_TIMEOUT_MS" none (by decide), counts "CONFIRMATIONS" (some 1) (by decide)]

/-- The problems of both environments agree around what is said of the chat id. -/
theorem problems_around (alike : Alike rt env env') :
    ∃ before after,
      problems rt env = before ++ (chatIdProblems (text env "TELEGRAM_CHAT_ID") ++ after) ∧
      problems rt env' = before ++ (chatIdProblems (text env' "TELEGRAM_CHAT_ID") ++ after) := by
  refine ⟨((checks rt env).take 6).flatten, ((checks rt env).drop 7).flatten, ?_, ?_⟩
  · simp [problems, checks]
  · rw [problems, checks_congr alike]
    simp [checks]

theorem problems_eq_iff (alike : Alike rt env env') :
    problems rt env = problems rt env' ↔
      chatIdProblems (text env "TELEGRAM_CHAT_ID") = chatIdProblems (text env' "TELEGRAM_CHAT_ID") := by
  obtain ⟨before, after, one, other⟩ := problems_around alike
  rw [one, other, List.append_right_inj, List.append_left_inj]

/-- What is said of the chat id quotes it exactly if it is malformed. -/
theorem chatIdProblems_eq_iff {chatId chatId' : String}
    (same : classOf isChatId chatId = classOf isChatId chatId') :
    chatIdProblems chatId = chatIdProblems chatId' ↔
      classOf isChatId chatId ≠ .malformed ∨ chatId = chatId' := by
  unfold classOf at same
  unfold chatIdProblems required classOf
  split_ifs at same ⊢ with unset unset'
  · simp
  · simp
  · simp [String.append_right_inj]

/-- Refused environments that are alike show one identity. -/
theorem readIdentity_congr (alike : Alike rt env env') :
    readIdentity rt env = readIdentity rt env' := by
  unfold readIdentity
  rw [text_congr alike (by decide : "CHAIN_ID" ∉ requiredSecrets),
    text_congr alike (by decide : "DEPLOYMENT_NAME" ∉ requiredSecrets),
    text_congr alike (by decide : "REGISTRY_ADDRESS" ∉ requiredSecrets)]

theorem page_of_refused (faulty : problems rt env ≠ []) :
    health rt env = some
      { status := 503
        body := .obj
          ([textField "status" "misconfigured"] ++ identityJson (readIdentity rt env) ++
            [("problems".toList, .arr ((problems rt env).map fun problem => .str problem.toList))]) } := by
  unfold health
  rw [readConfig_of_problems faulty]

theorem rebind_plain {key : String} (secret : key ∈ requiredSecrets) (value value' : String) :
    ∀ key', key' ∉ requiredSecrets →
      env.rebind key value key' = env.rebind key value' key' := by
  intro key' plain
  have other : key' ≠ key := fun same => plain (same ▸ secret)
  simp only [KeeperEnv.rebind, if_neg other]

/-- Two environments of the same classes can be told apart by their chat ids, when these
are malformed and differ, and in no other way. -/
theorem indistinguishable_iff (rt : Runtime) (env env' : KeeperEnv) (alike : Alike rt env env') :
    Indistinguishable rt env env' ↔
      classOf isChatId (text env "TELEGRAM_CHAT_ID") ≠ .malformed ∨
        text env "TELEGRAM_CHAT_ID" = text env' "TELEGRAM_CHAT_ID" := by
  rw [← chatIdProblems_eq_iff alike.chatId, ← problems_eq_iff alike, ← verdict_eq_iff]
  constructor
  · exact Indistinguishable.outcome
  · intro outcome
    refine ⟨outcome, fun refused => ?_⟩
    have faulty : problems rt env ≠ [] := by
      intro clean
      rw [verdict_eq, if_pos clean] at refused
      exact refused rfl
    have same : problems rt env = problems rt env' := (verdict_eq_iff rt env env').mp outcome
    rw [page_of_refused faulty, page_of_refused (same ▸ faulty), same, readIdentity_congr alike]

example : problems sampleRuntime sampleEnv = [] := by decide +kernel

theorem malformed_keys_alike :
    Alike sampleRuntime (sampleEnv.rebind "PRIVATE_KEY" "0xSECRETdeadbeef")
      (sampleEnv.rebind "PRIVATE_KEY" "0x1234") :=
  ⟨rebind_plain (by decide) _ _, by decide +kernel, by decide +kernel, by decide +kernel,
    by decide +kernel⟩

theorem indistinguishable_malformed_keys :
    Indistinguishable sampleRuntime (sampleEnv.rebind "PRIVATE_KEY" "0xSECRETdeadbeef")
      (sampleEnv.rebind "PRIVATE_KEY" "0x1234") :=
  (indistinguishable_iff _ _ _ malformed_keys_alike).mpr (.inl (by decide +kernel))

/-- Two chat ids that are names: each is quoted in the problem it causes. -/
theorem chat_id_distinguishes :
    Alike sampleRuntime (sampleEnv.rebind "TELEGRAM_CHAT_ID" "ops group")
        (sampleEnv.rebind "TELEGRAM_CHAT_ID" "dev group") ∧
      ¬ Indistinguishable sampleRuntime (sampleEnv.rebind "TELEGRAM_CHAT_ID" "ops group")
        (sampleEnv.rebind "TELEGRAM_CHAT_ID" "dev group") := by
  refine ⟨⟨rebind_plain (by decide) _ _, by decide +kernel, by decide +kernel, by decide +kernel,
    by decide +kernel⟩, fun same => ?_⟩
  have outcome := (verdict_eq_iff _ _ _).mp same.outcome
  revert outcome
  decide +kernel

end SwarmVolumes.Guarantees.ConfigProblems
