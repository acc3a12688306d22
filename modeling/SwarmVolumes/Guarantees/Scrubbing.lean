import SwarmVolumes.Library.Masking
import SwarmVolumes.Source.Keeper.Sample

/-!
# What a scrubbed report can hold

The scrubber looks for the bindings as they stand, while the run uses them trimmed, and
its masks are text like any other. So a secret stays in when nothing the scrubber looks
for is part of it (`leaks_of_unarmed`), as with a private key whose binding has a space
in front (`padded_key_leaks`), and when a mask spells it together with the text around
it (`leaks_of_completed`). Otherwise no report holds it, whatever its texts say
(`secrets_stay_in`).
-/
namespace SwarmVolumes.Guarantees.Scrubbing
open Library Library.Masking SwarmVolumes.Source.Keeper

/-- An endpoint with a path or a query. -/
def keyed (platform : Platform) (url : String) : Bool :=
  match platform.parseUrl url with
  | some u => u.pathname ≠ "/" ∨ u.search ≠ ""
  | none => false

/-- What must not leave a run: its key, its bot token and its endpoints with an API key,
as configured and as the platform writes them. -/
def secrets (platform : Platform) (config : Config) : List String :=
  [config.privateKey] ++
    (if 8 ≤ units config.telegram.botToken.toList then [config.telegram.botToken] else []) ++
    (config.endpoints.filter (keyed platform)).flatMap fun url =>
      url :: ((platform.parseUrl url).map Url.href).toList

/-- The scrubbed report of an accepted environment holds a secret. -/
def Leaks (rt : Runtime) (env : KeeperEnv) (report : Json) : Prop :=
  ∃ config, readConfig rt env = .ok config ∧
    ∃ text ∈ (scrubReport report (scrub (scrubber rt.toPlatform env))).strings,
      ∃ secret ∈ secrets rt.toPlatform config, secret.toList <:+: text

def asLists (pairs : List (String × String)) : List (List Char × List Char) :=
  pairs.map fun pair => (pair.1.toList, pair.2.toList)

/-- Every secret has a part the scrubber looks for and no mask puts together again. -/
def AllGuarded (rt : Runtime) (env : KeeperEnv) : Prop :=
  ∀ config, readConfig rt env = .ok config → ∀ secret ∈ secrets rt.toPlatform config,
    Guarded (asLists (scrubber rt.toPlatform env)) secret.toList

/-! ## The scrubber makes passes -/

theorem masks_replaceAll {src dst : List Char} (nonempty : src ≠ []) (text : List Char) :
    Masks src dst text (replaceAll src dst text) := by
  have positive : 0 < src.length := List.length_pos_iff.mpr nonempty
  induction text using replaceAll.induct src with
  | case1 =>
    rw [replaceAll]
    exact .clean fun inside => nonempty (List.infix_nil.mp inside)
  | case2 c text start ih =>
    obtain ⟨rest, whole⟩ := start
    have rest_eq : (c :: text).drop (max 1 src.length) = rest := by
      rw [max_eq_right positive, ← whole, List.drop_left]
    rw [replaceAll, if_pos ⟨rest, whole⟩]
    rw [rest_eq] at ih ⊢
    rw [← whole]
    have first : ¬ src <:+: ([] ++ src).dropLast := by
      intro inside
      have shorter := inside.length_le
      rw [List.nil_append, List.length_dropLast] at shorter
      omega
    exact .found first ih
  | case3 c text different ih =>
    rw [replaceAll, if_neg different]
    generalize replaceAll src dst text = masked at ih
    cases ih with
    | clean absent => exact .clean (by simp [List.infix_cons_iff, different, absent])
    | @found before rest masked first tail =>
      refine @Masks.found _ src dst (c :: before) rest masked ?_ tail
      intro inside
      rw [List.cons_append, List.dropLast_cons_of_ne_nil (by simp [nonempty]),
        List.infix_cons_iff] at inside
      rcases inside with start | inside
      · refine different (start.trans (List.prefix_cons_inj c |>.mpr ?_))
        exact (List.dropLast_prefix _).trans ⟨rest, by simp⟩
      · exact first inside

theorem passes_scrub {pairs : List (String × String)}
    (nonempty : ∀ pair ∈ pairs, pair.1.toList ≠ []) (text : String) :
    Passes (asLists pairs) text.toList (scrub pairs text).toList := by
  unfold scrub
  rw [String.toList_ofList]
  generalize text.toList = text
  induction pairs generalizing text with
  | nil => exact .done
  | cons pair pairs ih =>
    have present := nonempty pair (List.mem_cons_self ..)
    exact .pass (masks_replaceAll present text) (ih (fun pair' member => nonempty pair' (List.mem_cons_of_mem _ member)) _)

theorem armed_nonempty {platform : Platform} {env : KeeperEnv} {pair : String × String}
    (member : pair ∈ scrubber platform env) : pair.1.toList ≠ [] := by
  intro empty
  have long := scrubPairs_long member
  rw [empty] at long
  exact absurd long (by decide)

theorem passes_scrubber (platform : Platform) (env : KeeperEnv) (text : List Char) :
    Passes (asLists (scrubber platform env)) text
      (scrub (scrubber platform env) (String.ofList text)).toList := by
  have nonempty : ∀ pair ∈ scrubber platform env, pair.1.toList ≠ [] := fun _ => armed_nonempty
  have passes := passes_scrub nonempty (String.ofList text)
  rwa [String.toList_ofList] at passes

/-- The strings of a scrubbed report are what the passes leave of those of the report. -/
theorem passes_of_scrubbed {platform : Platform} {env : KeeperEnv} {report : Json} {text : List Char}
    (member : text ∈ (scrubReport report (scrub (scrubber platform env))).strings) :
    ∃ original ∈ report.strings, Passes (asLists (scrubber platform env)) original text := by
  rw [scrubReport, Document.strings_mapStrings, List.mem_map] at member
  obtain ⟨original, present, rfl⟩ := member
  exact ⟨original, present, passes_scrubber platform env original⟩

/-- No report of an environment whose secrets are all guarded holds one of them, once it
is scrubbed. -/
theorem secrets_stay_in (rt : Runtime) (env : KeeperEnv) (guarded : AllGuarded rt env)
    (report : Json) : ¬ Leaks rt env report := by
  rintro ⟨config, accepted, text, member, secret, used, inside⟩
  obtain ⟨original, -, passes⟩ := passes_of_scrubbed member
  exact (guarded config accepted secret used).absent passes inside

theorem scrubPairs_sorted (platform : Platform) (rpcUrls others : List String) :
    (scrubPairs platform rpcUrls others).Pairwise fun a b => units b.1.toList ≤ units a.1.toList := by
  refine (List.pairwise_mergeSort ?_ ?_ _).imp of_decide_eq_true
  · intro a b c first second
    rw [decide_eq_true_eq] at first second ⊢
    omega
  · intro a b
    rw [Bool.or_eq_true, decide_eq_true_eq, decide_eq_true_eq]
    omega

/-- Of the order of the passes, only that a longer string comes first matters. -/
theorem guarded_of_shorter {platform : Platform} {env : KeeperEnv} {secret : List Char}
    {armed : String × String} (member : armed ∈ scrubber platform env)
    (part : armed.1.toList <:+: secret) (own : OwnMask armed.1.toList armed.2.toList)
    (later : ∀ pair ∈ scrubber platform env, units pair.1.toList ≤ units armed.1.toList →
      LaterMask armed.1.toList pair.1.toList pair.2.toList) :
    Guarded (asLists (scrubber platform env)) secret := by
  have nonempty := armed_nonempty member
  have sorted := scrubPairs_sorted platform (list ((env "RPC_URL").getD ""))
    [(env "TELEGRAM_BOT_TOKEN").getD "", (env "PRIVATE_KEY").getD ""]
  rw [← scrubber] at sorted
  obtain ⟨before, after, whole⟩ := List.append_of_mem member
  rw [whole] at sorted later ⊢
  refine ⟨asLists before, armed.1.toList, armed.2.toList, asLists after, by simp [asLists],
    nonempty, part, own, ?_⟩
  intro _ listed
  obtain ⟨pair, follows, rfl⟩ := List.mem_map.mp listed
  have shorter := (List.pairwise_cons.mp (List.pairwise_append.mp sorted).2.1).1 pair follows
  exact later pair (by simp [follows]) shorter

/-! ## When secrets get out -/

/-- What the scrubber leaves of a text, as the only string of a report. -/
theorem leaks_of_passes {rt : Runtime} {env : KeeperEnv} {config : Config} {secret : String}
    (accepted : readConfig rt env = .ok config) (used : secret ∈ secrets rt.toPlatform config)
    {original : List Char}
    (out : ∀ text, Passes (asLists (scrubber rt.toPlatform env)) original text →
      secret.toList <:+: text) : Leaks rt env (.str original) :=
  ⟨config, accepted, _, List.mem_singleton_self _, secret, used,
    out _ (passes_scrubber rt.toPlatform env original)⟩

/-- A secret that the scrubber looks for no part of. -/
theorem leaks_of_unarmed {rt : Runtime} {env : KeeperEnv} {config : Config} {secret : String}
    (accepted : readConfig rt env = .ok config) (used : secret ∈ secrets rt.toPlatform config)
    (unarmed : ∀ pair ∈ asLists (scrubber rt.toPlatform env), ¬ pair.1 <:+: secret.toList) :
    Leaks rt env (.str secret.toList) := by
  refine leaks_of_passes accepted used fun text passes => ?_
  rw [passes.unchanged unarmed]

/-- A mask that spells a secret between `x` and `z`, where no other armed string is. -/
theorem leaks_of_completed {rt : Runtime} {env : KeeperEnv} {config : Config} {secret : String}
    (accepted : readConfig rt env = .ok config) (used : secret ∈ secrets rt.toPlatform config)
    {before after : List (List Char × List Char)} {src dst x z : List Char}
    (pairs : asLists (scrubber rt.toPlatform env) = before ++ (src, dst) :: after)
    (completes : Completes secret.toList dst x z) (first : ¬ src <:+: (x ++ src).dropLast)
    (absent : ¬ src <:+: z) (earlier : ∀ pair ∈ before, ¬ pair.1 <:+: x ++ (src ++ z))
    (later : ∀ pair ∈ after, ¬ pair.1 <:+: x ++ (dst ++ z)) :
    Leaks rt env (.str (x ++ (src ++ z))) := by
  refine leaks_of_passes accepted used fun text passes => ?_
  rw [pairs] at passes
  exact passes.completed completes first absent earlier later

/-! ## Padded bindings -/

/-- A URL has a scheme, so a colon, as given and as the platform writes it. -/
def Schemed (platform : Platform) : Prop :=
  ∀ url u, platform.parseUrl url = some u → ':' ∈ url.toList ∧ ':' ∈ u.href.toList

theorem no_colon_in_key {key : String} (shaped : isPrivateKey key = true) : ':' ∉ key.toList := by
  unfold isPrivateKey isHexWord at shaped
  split at shaped
  · rename_i digits spelled
    have hex := (of_decide_eq_true shaped).2
    rw [spelled]
    intro member
    have digit : ':' ∈ digits := by simpa using member
    exact absurd (List.all_eq_true.mp hex ':' digit) (by decide)
  · cases shaped

theorem colon_in_token {token : String} (shaped : isBotToken token = true) : ':' ∈ token.toList := by
  unfold isBotToken at shaped
  split at shaped
  · rename_i secret rest
    exact (List.dropWhile_sublist _).subset (rest ▸ List.mem_cons_self ..)
  · cases shaped

theorem trim_sublist (text : List Char) : (trim text).Sublist text :=
  ((List.rdropWhile_prefix _ _).sublist).trans (List.dropWhile_sublist _)

theorem colon_in_plain {cs : List Char} (colon : ':' ∈ cs) :
    ':' ∈ cs.rdropWhile fun c => c = '/' := by
  rw [← @List.rdropWhile_append_rtakeWhile _ (fun c => decide (c = '/')) cs, List.mem_append]
    at colon
  rcases colon with front | slashes
  · exact front
  · have slash := List.mem_rtakeWhile_imp slashes
    exact absurd slash (by decide)

theorem colon_in_variant {platform : Platform} (schemed : Schemed platform) {url variant : String}
    (valid : isHttpUrl platform url = true) (member : variant ∈ variants platform url) :
    ':' ∈ variant.toList := by
  unfold isHttpUrl at valid
  split at valid
  · rename_i u parsed
    obtain ⟨given, written⟩ := schemed url u parsed
    unfold variants at member
    simp only [List.mem_eraseDups, parsed, Option.map_some, Option.toList_some, List.mem_append,
      List.mem_cons, List.not_mem_nil, or_false] at member
    rcases member with (rfl | rfl) | rfl
    · exact given
    · rw [String.toList_ofList]
      exact colon_in_plain given
    · exact written
  · cases valid

/-- What the scrubber of an accepted environment looks for, next to the raw key, has a colon. -/
theorem colon_in_armed {rt : Runtime} {env : KeeperEnv} {config : Config}
    (schemed : Schemed rt.toPlatform) (accepted : readConfig rt env = .ok config)
    {pair : String × String} (member : pair ∈ scrubber rt.toPlatform env) :
    ':' ∈ pair.1.toList ∨ pair.1 = (env "PRIVATE_KEY").getD "" := by
  obtain ⟨clean, -⟩ := readConfig_ok accepted
  have endpoints : endpointProblems rt.toPlatform (list (text env "RPC_URL")) = [] :=
    passed clean (by simp [checks])
  have token : botTokenProblems (text env "TELEGRAM_BOT_TOKEN") = [] :=
    passed clean (by simp [checks])
  unfold scrubber scrubPairs at member
  rw [List.mem_mergeSort, List.mem_filter, List.mem_append] at member
  rcases member.1 with url | other
  · obtain ⟨url, configured, variant⟩ := List.mem_flatMap.mp url
    obtain ⟨variant, listed, rfl⟩ := List.mem_map.mp variant
    rw [← list_text] at configured
    exact .inl (colon_in_variant schemed (http_of_endpoints endpoints configured) listed)
  · simp only [List.map_cons, List.map_nil, List.mem_cons, List.not_mem_nil, or_false] at other
    rcases other with rfl | rfl
    · have shaped := colon_in_token (shape_of_required token)
      unfold text at shaped
      rw [String.toList_ofList] at shaped
      cases bound : env "TELEGRAM_BOT_TOKEN" with
      | none => simp [bound] at shaped
      | some raw =>
        rw [bound] at shaped
        exact .inl ((trim_sublist _).subset shaped)
    · exact .inr rfl

/-- A private key whose binding has a space around it is in every text as it was. -/
theorem padded_key_leaks {rt : Runtime} {env : KeeperEnv} {config : Config}
    (schemed : Schemed rt.toPlatform) (accepted : readConfig rt env = .ok config)
    (padded : env "PRIVATE_KEY" ≠ some config.privateKey) :
    Leaks rt env (.str config.privateKey.toList) := by
  obtain ⟨clean, chain, rfl⟩ := readConfig_ok accepted
  have valid : privateKeyProblems (text env "PRIVATE_KEY") = [] := passed clean (by simp [checks])
  have shaped : isPrivateKey (text env "PRIVATE_KEY") = true := shape_of_required valid
  have used : (config rt env chain).privateKey ∈ secrets rt.toPlatform (config rt env chain) := by
    simp [secrets]
  refine leaks_of_unarmed accepted used ?_
  intro pair member inside
  obtain ⟨pair, armed, rfl⟩ := List.mem_map.mp member
  rcases colon_in_armed schemed accepted armed with colon | raw
  · exact no_colon_in_key shaped (inside.subset colon)
  · cases bound : env "PRIVATE_KEY" with
    | none =>
      rw [text, bound] at shaped
      exact absurd shaped (by decide)
    | some binding =>
      have trimmed : (text env "PRIVATE_KEY").toList = trim binding.toList := by
        rw [text, bound, String.toList_ofList]
        rfl
      rw [raw, bound] at inside
      have within : binding.toList.length ≤ (trim binding.toList).length :=
        trimmed ▸ inside.length_le
      have same : trim binding.toList = binding.toList :=
        (trim_sublist _).eq_of_length_le within
      refine padded (bound.trans (congrArg some ?_))
      exact String.toList_injective ((trimmed.trans same).symm)

/-! ## Samples -/

/-- What the scrubber of an environment looks for, in any order. -/
def armedPairs (platform : Platform) (env : KeeperEnv) : List (String × String) :=
  let urls := list ((env "RPC_URL").getD "")
  let others := [(env "TELEGRAM_BOT_TOKEN").getD "", (env "PRIVATE_KEY").getD ""]
  (urls.flatMap (fun url => (variants platform url).map (·, redact platform url)) ++
    others.map (·, "<redacted>")).filter fun pair => 8 ≤ units pair.1.toList

theorem mem_scrubber {platform : Platform} {env : KeeperEnv} {pair : String × String} :
    pair ∈ scrubber platform env ↔ pair ∈ armedPairs platform env :=
  List.mem_mergeSort

/-- A check of a guard that computes. -/
theorem guarded_of_armed {platform : Platform} {env : KeeperEnv} {secret : String}
    (mask : String) (member : (secret, mask) ∈ armedPairs platform env)
    (own : OwnMask secret.toList mask.toList)
    (later : ∀ pair ∈ armedPairs platform env, units pair.1.toList ≤ units secret.toList →
      LaterMask secret.toList pair.1.toList pair.2.toList) :
    Guarded (asLists (scrubber platform env)) secret.toList :=
  guarded_of_shorter (mem_scrubber.mpr member) List.infix_rfl own fun pair listed =>
    later pair (mem_scrubber.mp listed)

/-- Two endpoints with keys, and spaces around them. -/
def spacedEnv : KeeperEnv :=
  sampleEnv.rebind "RPC_URL" " https://rpc.example/v3/APIKEY , https://rpc.example/v3/SPARE "

example : spacedEnv "PRIVATE_KEY" = some sampleKey := by decide +kernel

theorem spaced_pairs : armedPairs sampleRuntime.toPlatform spacedEnv =
    [("https://rpc.example/v3/APIKEY", "https://rpc.example/…"),
      ("https://rpc.example/v3/SPARE", "https://rpc.example/…"),
      (sampleToken, "<redacted>"), (sampleKey, "<redacted>")] := by
  decide +kernel

theorem spaced_secrets {config : Config} (accepted : readConfig sampleRuntime spacedEnv = .ok config) :
    secrets sampleRuntime.toPlatform config =
      [sampleKey, sampleToken, "https://rpc.example/v3/APIKEY", "https://rpc.example/v3/APIKEY",
        "https://rpc.example/v3/SPARE", "https://rpc.example/v3/SPARE"] := by
  obtain ⟨-, chain, rfl⟩ := readConfig_ok accepted
  have any : secrets sampleRuntime.toPlatform (config sampleRuntime spacedEnv chain) =
      secrets sampleRuntime.toPlatform (config sampleRuntime spacedEnv ⟨100, "Gnosis"⟩) := rfl
  rw [any]
  decide +kernel

theorem spaced_guarded : AllGuarded sampleRuntime spacedEnv := by
  intro config accepted secret used
  rw [spaced_secrets accepted] at used
  have guarded : ∀ pair ∈ armedPairs sampleRuntime.toPlatform spacedEnv,
      Guarded (asLists (scrubber sampleRuntime.toPlatform spacedEnv)) pair.1.toList := by
    have own : ∀ pair ∈ armedPairs sampleRuntime.toPlatform spacedEnv,
        OwnMask pair.1.toList pair.2.toList := by
      rw [spaced_pairs]
      decide +kernel
    have later : ∀ pair ∈ armedPairs sampleRuntime.toPlatform spacedEnv,
        ∀ pair' ∈ armedPairs sampleRuntime.toPlatform spacedEnv,
          LaterMask pair.1.toList pair'.1.toList pair'.2.toList := by
      rw [spaced_pairs]
      decide +kernel
    intro pair member
    exact guarded_of_armed pair.2 member (own pair member) fun pair' listed _ =>
      later pair member pair' listed
  have armed : ∀ secret ∈ [sampleKey, sampleToken, "https://rpc.example/v3/APIKEY",
      "https://rpc.example/v3/APIKEY", "https://rpc.example/v3/SPARE", "https://rpc.example/v3/SPARE"],
      ∃ pair ∈ armedPairs sampleRuntime.toPlatform spacedEnv, pair.1 = secret := by
    rw [spaced_pairs]
    decide +kernel
  obtain ⟨pair, member, rfl⟩ := armed secret used
  exact guarded pair member

example : sampleKey ∈ secrets sampleRuntime.toPlatform (config sampleRuntime spacedEnv ⟨100, "Gnosis"⟩) := by
  decide +kernel

/-- A text that quotes an endpoint and the key. -/
theorem spaced_stays_in :
    (readConfig sampleRuntime spacedEnv).toOption.isSome = true ∧
      ¬ Leaks sampleRuntime spacedEnv
        (.arr [.str "URL: https://rpc.example/v3/APIKEY".toList, .str sampleKey.toList]) :=
  ⟨by decide +kernel, secrets_stay_in _ _ spaced_guarded _⟩

theorem plainUrl_schemed : Schemed sampleRuntime.toPlatform := by
  intro url u parsed
  unfold sampleRuntime plainUrl at parsed
  dsimp only at parsed
  split at parsed
  · rename_i rest after
    obtain rfl := Option.some.inj parsed
    constructor
    · exact (List.dropWhile_sublist _).subset (after ▸ List.mem_cons_self ..)
    · simp
  · cases parsed

/-- The sample deployment with a space before the private key in its binding. -/
theorem padded_key_sample :
    Leaks sampleRuntime (sampleEnv.rebind "PRIVATE_KEY" (" " ++ sampleKey)) (.str sampleKey.toList) := by
  have clean : problems sampleRuntime (sampleEnv.rebind "PRIVATE_KEY" (" " ++ sampleKey)) = [] := by
    decide +kernel
  obtain ⟨chain, accepted⟩ := readConfig_of_clean clean
  have used : (config sampleRuntime (sampleEnv.rebind "PRIVATE_KEY" (" " ++ sampleKey)) chain).privateKey =
      sampleKey := by
    show text _ _ = _
    decide +kernel
  have padded := padded_key_leaks plainUrl_schemed accepted
    (by rw [used]; decide +kernel)
  rwa [used] at padded

end SwarmVolumes.Guarantees.Scrubbing
