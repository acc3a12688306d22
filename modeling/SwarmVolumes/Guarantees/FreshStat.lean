import SwarmVolumes.Guarantees.DerivedRegistry
import SwarmVolumes.Guarantees.WireFormat
import SwarmVolumes.Source.Published.Stat

/-!
# What `stat` shows is the last sync

A selector that names a deployment in the registry names its entry in the artifact, in
each of its three spellings. So `stat` shows what the last sync of the deployment projected
(`stat_shows_last_sync`).
-/
namespace SwarmVolumes.Guarantees.FreshStat
open Library
open Library.PyText (lowerString)
open Source.Fields Source.Published
open Source.Indexer (PyError)
open PublishedArtifact (networkName_no_dash)
open WireFormat (Untargeted foldl_held_filed foldl_held_keeps held_filed)

variable {F : Type} {floats : Floats F} {lower : String → String}

/-! ## Labels and addresses -/

theorem digit_ascii {c : Char} (digit : c.isDigit = true) : c.toNat < 128 ∧ c.toLower = c ∧ c ≠ ':' := by
  have bounds := Char.isDigit_iff_toNat.mp digit
  have high : c.toNat ≤ 57 := bounds.2
  have upper : ¬ c.isUpper = true := by
    intro uppercase
    simp only [Char.isUpper, decide_eq_true_eq, ge_iff_le, UInt32.le_iff_toNat_le] at uppercase
    have low : 65 ≤ c.toNat := uppercase.1
    omega
  refine ⟨by omega, Char.toLower_eq_of_not_isUpper upper, ?_⟩
  rintro rfl
  exact absurd digit (by decide)

theorem toString_toList (n : Int) : (toString n).toList = Json.number n := by
  rw [Int.toString_eq_repr]
  cases n with
  | ofNat m => simp [Int.repr, Json.number, Nat.toList_repr]
  | negSucc m => simp [Int.repr, Json.number, Nat.toList_repr]

/-- The text of an address spells its chain and its registry. -/
theorem address_injective {n n' : Int} {s s' : String}
    (same : toString n ++ ":" ++ s = toString n' ++ ":" ++ s') : n = n' ∧ s = s' := by
  have spelled : (toString n).toList ++ ':' :: s.toList = (toString n').toList ++ ':' :: s'.toList := by
    have lists := congrArg String.toList same
    simpa using lists
  have ends : ∀ text : String, Ends (':' :: text.toList) := fun _ => Document.ends_of_head rfl (by decide)
  rw [toString_toList, toString_toList] at spelled
  obtain ⟨chain, back⟩ := Document.number_append_inj (ends s) (ends s') spelled
  exact ⟨chain, String.toList_injective (List.tail_eq_of_cons_eq back)⟩

/-- The last character of a number is a digit. -/
theorem number_ends (n : Int) : ∃ front d, Json.number n = front ++ [d] ∧ d.isDigit = true := by
  have digits : ∀ m : Nat, ∃ front d, Nat.toDigits 10 m = front ++ [d] ∧ d.isDigit = true := by
    intro m
    have present : Nat.toDigits 10 m ≠ [] := Nat.toDigits_ne_nil
    refine ⟨_, _, (List.dropLast_append_getLast present).symm, ?_⟩
    exact Nat.isDigit_of_mem_toDigits (by decide) (by decide) (List.getLast_mem present)
  cases n with
  | ofNat m => exact digits m
  | negSucc m =>
    obtain ⟨front, d, spelled, digit⟩ := digits (m + 1)
    exact ⟨'-' :: front, d, by rw [Json.number, spelled, List.cons_append], digit⟩

theorem numeric_lower {c : Char} (numeric : c = '-' ∨ c.isDigit = true) :
    c.toNat < 128 ∧ c.toLower = c := by
  rcases numeric with rfl | digit
  · decide
  · exact ⟨(digit_ascii digit).1, (digit_ascii digit).2.1⟩

/-- The lower case of an address is that of the registry. -/
theorem lower_address (n : Int) (s : String) :
    lowerString (toString n ++ ":" ++ s) = toString n ++ ":" ++ lowerString s := by
  have numeric : ∀ c ∈ Json.number n, c.toNat < 128 ∧ c.toLower = c := fun c member =>
    numeric_lower (Json.numeric_of_mem member)
  have ascii : ∀ c ∈ Json.number n ++ [':'], c.toNat < 128 :=
    List.forall_mem_append.mpr ⟨fun c member => (numeric c member).1,
      List.forall_mem_singleton.mpr (by decide)⟩
  have same : (Json.number n ++ [':']).map Char.toLower = Json.number n ++ [':'] := by
    rw [List.map_append, List.map_congr_left fun c member => (numeric c member).2, List.map_id']
    rfl
  have ends : PyText.firstCased (Json.number n ++ [':']).reverse = false := by
    obtain ⟨front, d, spelled, digit⟩ := number_ends n
    obtain ⟨uncased, solid⟩ := PyText.digit_uncased digit
    rw [spelled, List.reverse_append, List.reverse_append, List.reverse_singleton, List.reverse_singleton,
      List.singleton_append, List.singleton_append, PyText.firstCased_cons, if_pos (by simp [Unicode.caseIgnorable]),
      PyText.firstCased_cons, if_neg (by simp [solid]), uncased]
  apply String.toList_injective
  have spelled : (toString n ++ ":" ++ s).toList = Json.number n ++ [':'] ++ s.toList := by
    rw [String.toList_append, String.toList_append, toString_toList]
    rfl
  rw [lowerString, String.toList_ofList, spelled, PyText.lower_append ascii ends, same, String.toList_append,
    String.toList_append, toString_toList, lowerString, String.toList_ofList, String.toList_ofList]

/-- The characters of a label. -/
def plain (c : Char) : Bool := lowerOrDigit c || c = '_' || c = '-'

theorem plain_ascii {c : Char} (ok : plain c = true) : c.toNat < 128 ∧ c.toLower = c ∧ c ≠ ':' := by
  have letter : c.isLower = true → c.toNat < 128 ∧ c.toLower = c ∧ c ≠ ':' := by
    intro lowercase
    have upper := Char.not_isUpper_of_isLower lowercase
    have bounds := lowercase
    simp only [Char.isLower, Bool.and_eq_true, decide_eq_true_eq, ge_iff_le, UInt32.le_iff_toNat_le] at bounds
    have high : c.toNat ≤ 122 := bounds.2
    refine ⟨by omega, Char.toLower_eq_of_not_isUpper upper, ?_⟩
    rintro rfl
    exact absurd lowercase (by decide)
  simp only [plain, lowerOrDigit, Bool.or_eq_true, decide_eq_true_eq] at ok
  rcases ok with ((lowercase | isDigit) | rfl) | rfl
  · exact letter lowercase
  · exact digit_ascii isDigit
  · decide
  · decide

theorem digit_plain {c : Char} (digit : c.isDigit = true) : plain c = true := by
  simp [plain, lowerOrDigit, digit]

theorem positiveDigits_plain {cs : List Char} (ok : positiveDigits cs = true) :
    ∀ c ∈ cs, plain c = true := by
  unfold positiveDigits at ok
  split at ok
  · cases ok
  · simp only [Bool.and_eq_true, List.all_eq_true] at ok
    exact fun c member => digit_plain (ok.2 c member)

theorem network_plain {network : String} (named : networkName network = true) :
    ∀ c ∈ network.toList, plain c = true := by
  unfold networkName at named
  split at named
  · cases named
  · rename_i c cs spelled
    simp only [Bool.and_eq_true, List.all_eq_true] at named
    rw [spelled]
    refine List.forall_mem_cons.mpr ⟨by simp [plain, named.1], fun c member => ?_⟩
    simp [plain, named.2 c member]

theorem version_plain {version : String} (versioned : versionName version = true) :
    ∀ c ∈ version.toList, plain c = true := by
  unfold versionName at versioned
  split at versioned
  · rename_i cs spelled
    rw [Bool.and_eq_true] at versioned
    obtain ⟨number, candidate⟩ := versioned
    rw [spelled, ← List.takeWhile_append_dropWhile (p := Char.isDigit) (l := cs)]
    have rest : ∀ c ∈ cs.dropWhile Char.isDigit, plain c = true := by
      split at candidate
      · rename_i none
        simp [none]
      · rename_i more found
        rw [found]
        intro c member
        simp only [List.mem_cons] at member
        rcases member with rfl | rfl | rfl | later
        · decide
        · decide
        · decide
        · exact positiveDigits_plain candidate c later
      · cases candidate
    intro c member
    rcases List.mem_cons.mp member with rfl | member
    · decide
    · rcases List.mem_append.mp member with digits | later
      · exact positiveDigits_plain number c digits
      · exact rest c later
  · cases versioned

theorem label_plain {spec : DeploymentSpec} (versioned : versionName spec.registryVersion = true) :
    ∀ c ∈ spec.label.toList, plain c = true := by
  intro c member
  rw [DeploymentSpec.label, deploymentLabel] at member
  simp only [String.toList_append, List.mem_append] at member
  rcases member with (network | dash) | version
  · exact network_plain spec.named c network
  · rw [List.mem_singleton.mp dash]
    decide
  · exact version_plain versioned c version

/-- A label is its own lower case. -/
theorem label_lower {spec : DeploymentSpec}
    (versioned : versionName spec.registryVersion = true) : lowerString spec.label = spec.label := by
  have plains := label_plain versioned
  have same : spec.label.toList.map Char.toLower = spec.label.toList := by
    rw [List.map_congr_left fun c member => (plain_ascii (plains c member)).2.1]
    exact List.map_id' _
  rw [lowerString, PyText.lower_ascii fun c member => (plain_ascii (plains c member)).1, same,
    String.ofList_toList]

/-- No network has the name of a deployment. -/
theorem network_ne_label (spec spec' : DeploymentSpec) : spec.network ≠ spec'.label := by
  intro same
  have plain := networkName_no_dash spec.named '-'
  rw [same, DeploymentSpec.label, deploymentLabel] at plain
  simp at plain

/-- No address is the lower case of a label. -/
theorem address_ne_label {spec : DeploymentSpec}
    (versioned : versionName spec.registryVersion = true) (item : Named) :
    lowerString item.address ≠ lowerString spec.label := by
  rw [label_lower versioned, Named.address, lower_address]
  intro same
  have colon : ':' ∈ spec.label.toList := by
    rw [← same]
    simp
  exact (plain_ascii (label_plain versioned ':' colon)).2.2 rfl

/-! ## Selecting -/

/-- The three spellings of a deployment of the registry. -/
theorem select_cases {reg : Registry} {selector : String} {spec : DeploymentSpec}
    (selected : select lower reg selector = some spec) : spec ∈ reg.deployments ∧
      (selector = spec.label ∨
        selector = spec.network ∧ reg.latest.val.get? selector = some spec.label ∨
        reg.latest.val.get? selector = none ∧ lower spec.names.address = lower selector) := by
  have byLabel_get? : ∀ label, (byLabel reg.deployments).get? label =
      reg.deployments.find? fun spec => spec.label = label := by
    intro label
    rw [byLabel, Dict.get?_ofList_keyed (fun spec => spec) reg.unique, Option.map_id']
  change ((byLabel reg.deployments).get? selector).or
    (((reg.latest.val.get? selector).bind fun label => (byLabel reg.deployments).get? label).or
      (reg.deployments.find? fun i => lower i.names.address = lower selector)) = some spec at selected
  simp only [byLabel_get?] at selected
  rcases Option.or_eq_some_iff.mp selected with own | ⟨_, selected⟩
  · have label := List.find?_some own
    exact ⟨List.mem_of_find?_eq_some own, .inl (of_decide_eq_true label).symm⟩
  · rcases Option.or_eq_some_iff.mp selected with pointed | ⟨unpointed, address⟩
    · obtain ⟨label, latest, found⟩ := Option.bind_eq_some_iff.mp pointed
      have named : spec.label = label := by simpa using List.find?_some found
      have home := reg.home (selector, label) ((Dict.mem_iff_get? reg.latest.property).mpr latest)
      unfold PointsHome at home
      rw [byLabel_get?, found] at home
      rw [← named] at latest
      exact ⟨List.mem_of_find?_eq_some found, .inr (.inl ⟨(Option.some.inj home).symm, latest⟩)⟩
    · have none : reg.latest.val.get? selector = none := by
        cases latest : reg.latest.val.get? selector with
        | none => rfl
        | some label =>
          have home := reg.home (selector, label) ((Dict.mem_iff_get? reg.latest.property).mpr latest)
          rw [latest, Option.bind_some] at unpointed
          unfold PointsHome at home
          rw [byLabel_get?, unpointed] at home
          cases home
      have same := List.find?_some address
      simp only [decide_eq_true_eq] at same
      exact ⟨List.mem_of_find?_eq_some address, .inr (.inr ⟨none, same⟩)⟩

theorem missing_eq_none {reg : Registry} {labels : List String} {selector : String}
    (settled : selector ∈ labels ∨ ∀ label, reg.latest.val.get? selector = some label → label ∈ labels) :
    missing reg labels (some selector) = none := by
  change ((reg.latest.val.get? selector).bind fun label =>
    if selector ∉ labels ∧ label ∉ labels then some (selector, label) else none) = none
  cases latest : reg.latest.val.get? selector with
  | none => rfl
  | some label =>
    rw [Option.bind_some, if_neg]
    rintro ⟨unlisted, absent⟩
    rcases settled with listed | listed
    · exact unlisted listed
    · exact absent (listed label latest)

theorem find?_of_only {α : Type} {p : α → Bool} {as : List α} {a : α} (member : a ∈ as) (holds : p a = true)
    (only : ∀ b ∈ as, p b = true → b = a) : as.find? p = some a := by
  cases found : as.find? p with
  | none => exact absurd holds (List.find?_eq_none.mp found a member)
  | some b => rw [only b (List.mem_of_find?_eq_some found) (List.find?_some found)]

/-- An artifact whose labels are those of deployments. -/
def Labelled (existing : Option (Artifact F)) : Prop :=
  ∀ a ∈ existing, ∀ e ∈ a.deployments, ∃ spec : DeploymentSpec,
    versionName spec.registryVersion = true ∧ e.label = spec.label

/-- What selects a deployment in the registry selects its entry in the artifact. -/
theorem resolve_entry {reg : Registry} {selector : String} {spec : DeploymentSpec}
    (selected : select lowerString reg selector = some spec) {a : Artifact F}
    (labelled : Labelled (some a)) (distinct : (a.deployments.map (entryKey lowerString)).Nodup)
    (unique : (a.deployments.map ArtifactEntry.label).Nodup) {e : ArtifactEntry F}
    (member : e ∈ a.deployments) (same : e.names = spec.names) :
    missing reg (a.deployments.map ArtifactEntry.label) (some selector) = none ∧
      resolve lowerString ArtifactEntry.names a.deployments reg.latest.val (some selector) = some e := by
  have label : e.label = spec.label := congrArg Named.label same
  have listed : spec.label ∈ a.deployments.map ArtifactEntry.label := by
    rw [← label]
    exact List.mem_map_of_mem member
  have byLabel_get? : ∀ label', (Dict.ofList (a.deployments.map fun i => (i.names.label, i))).get? label' =
      a.deployments.find? fun i => i.names.label = label' := by
    intro label'
    exact (Dict.get?_ofList_keyed (fun i => i) unique).trans (by rw [Option.map_id']; rfl)
  have here : (a.deployments.find? fun i => i.names.label = spec.label) = some e := by
    rw [← label]
    exact Dict.find?_keyed unique member
  have absent : selector ∉ a.deployments.map ArtifactEntry.label →
      (a.deployments.find? fun i => i.names.label = selector) = none := by
    intro unlisted
    rw [List.find?_eq_none]
    intro i within named
    apply unlisted
    rw [← of_decide_eq_true named]
    exact List.mem_map_of_mem within
  obtain ⟨_, own | ⟨network, latest⟩ | ⟨none, address⟩⟩ := select_cases selected
  case inl =>
    rw [own]
    constructor
    · exact missing_eq_none (.inl listed)
    · simp [resolve, byLabel_get?, here]
  case inr.inl =>
    have unlisted : selector ∉ a.deployments.map ArtifactEntry.label := by
      intro listed
      obtain ⟨e', within, own⟩ := List.mem_map.mp listed
      obtain ⟨spec', _, named⟩ := labelled a rfl e' within
      exact network_ne_label spec spec' (network.symm.trans (own.symm.trans named))
    constructor
    · apply missing_eq_none
      apply Or.inr
      intro label' pointed
      rw [latest] at pointed
      rwa [← Option.some.inj pointed]
    · simp [resolve, byLabel_get?, absent unlisted, latest, here]
  case inr.inr =>
    have unlisted : selector ∉ a.deployments.map ArtifactEntry.label := by
      intro listed
      obtain ⟨e', within, own⟩ := List.mem_map.mp listed
      obtain ⟨spec', versioned, named⟩ := labelled a rfl e' within
      apply address_ne_label versioned spec.names
      rw [address, ← own, named]
    have found : (a.deployments.find? fun i => lowerString i.names.address = lowerString selector) = some e := by
      apply find?_of_only member
      · simp [same, address]
      · intro i within alike
        have equal : lowerString i.names.address = lowerString e.names.address := by
          rw [same, address]
          simpa using alike
        rw [Named.address, Named.address, lower_address, lower_address] at equal
        obtain ⟨chain, registry⟩ := address_injective equal
        exact List.inj_on_of_nodup_map distinct within member (Prod.ext chain registry)
    constructor
    · apply missing_eq_none
      apply Or.inr
      intro label' pointed
      rw [none] at pointed
      cases pointed
    · simp [resolve, byLabel_get?, absent unlisted, none, found]

/-! ## The entry of a sync -/

/-- The deployments a run syncs are of versions that are supported. -/
theorem plan_supported {run : Run F} {reg : Registry} {targets : List DeploymentSpec}
    (planned : plan lower run = .ok (reg, targets)) :
    ∀ spec ∈ targets, spec.registryVersion ∈ supportedVersions := by
  obtain ⟨reg', _, planned⟩ := bind_success planned
  obtain ⟨chosen, _, planned⟩ := bind_success planned
  obtain ⟨chainId, _, planned⟩ := bind_success planned
  obtain ⟨targets', _, planned⟩ := bind_success planned
  split at planned
  · rename_i supported
    cases planned
    intro spec member
    by_contra other
    have listed : spec ∈ unsupported targets := by simp [unsupported, member, other]
    rw [supported] at listed
    cases listed
  · cases planned

theorem mem_project {run : Run F} {targets : List DeploymentSpec} {entries : List (ArtifactEntry F)}
    (projected : project run targets = .ok entries) {e : ArtifactEntry F} :
    e ∈ entries ↔ ∃ spec ∈ targets, ∃ projection, run.project spec = .ok projection ∧
      projection.entry spec = e := by
  rw [mem_mapM projected]
  apply exists_congr
  intro spec
  apply and_congr_right
  intro _
  cases run.project spec with
  | error e' => simp [Bind.bind, Except.bind]
  | ok projection => simp

theorem mem_of_lastAlike {e : ArtifactEntry F} {es : List (ArtifactEntry F)}
    (last : lastAlike lower e es = some e) : e ∈ es := by
  obtain ⟨before, after, rfl, _⟩ := lastAlike_eq_some.mp last
  simp

/-- The only entry with its key is the last one. -/
theorem lastAlike_of_only {e : ArtifactEntry F} {es : List (ArtifactEntry F)} (member : e ∈ es)
    (only : ∀ b ∈ es, entryKey lower b = entryKey lower e → b = e) : lastAlike lower e es = some e := by
  cases last : lastAlike lower e es with
  | none => exact absurd rfl (lastAlike_eq_none.mp last e member)
  | some b =>
    obtain ⟨before, b', after, rfl, own, _⟩ := latest_eq_some.mp last
    split at own
    · rename_i same
      cases own
      rw [only b (by simp) same]
    · cases own

theorem held_labelled {existing : Option (Artifact F)} (labelled : Labelled existing) (run : Run F) :
    Labelled (held lower existing run) := by
  unfold held
  cases ok : published lower existing run with
  | error e => exact labelled
  | ok artifact =>
    obtain ⟨reg, targets, entries, planned, projected, rfl⟩ := published_success ok
    rintro _ ⟨⟩ e member
    obtain ⟨e, listed, rfl⟩ := List.mem_map.mp member
    rcases mem_mergeEntries.mp listed with new | ⟨_, old⟩
    · obtain ⟨spec, target, projection, _, rfl⟩ := (mem_project projected).mp (mem_of_lastAlike new)
      exact ⟨spec, DerivedRegistry.supported_named _ (plan_supported planned spec target), rfl⟩
    · have within := mem_of_lastAlike old
      cases existing with
      | none => cases within
      | some a => exact labelled a rfl e within

theorem foldl_held_labelled {existing : Option (Artifact F)} (labelled : Labelled existing)
    (runs : List (Run F)) : Labelled (runs.foldl (held lower) existing) := by
  induction runs generalizing existing with
  | nil => exact labelled
  | cons run runs ih => exact ih (held_labelled labelled run)

/-- A sync leaves the entry it projected for a target that is alone at its address. -/
theorem held_synced {existing : Option (Artifact F)} {run : Run F} {artifact : Artifact F}
    (ok : published lower existing run = .ok artifact) {reg : Registry} {targets : List DeploymentSpec}
    (planned : plan lower run = .ok (reg, targets)) {spec : DeploymentSpec} (target : spec ∈ targets)
    (alone : ∀ other ∈ targets, specKey lower other = specKey lower spec → other = spec) :
    ∃ projection, run.project spec = .ok projection ∧
      (projection.entry spec).wholeSecond ∈ artifact.written.deployments := by
  obtain ⟨reg', targets', entries, planned', projected, rfl⟩ := published_success ok
  rw [planned] at planned'
  cases planned'
  obtain ⟨entry, run_ok⟩ := mapM_success projected spec target
  obtain ⟨projection, own, _⟩ := bind_success run_ok
  refine ⟨projection, own, List.mem_map_of_mem ?_⟩
  apply mem_mergeEntries.mpr
  apply Or.inl
  have listed : projection.entry spec ∈ entries := (mem_project projected).mpr ⟨spec, target, projection, own, rfl⟩
  have only : ∀ b ∈ entries, entryKey lower b = specKey lower spec → b = projection.entry spec := by
    intro b member same
    obtain ⟨other, target', projection', own', rfl⟩ := (mem_project projected).mp member
    obtain rfl := alone other target' same
    rw [own] at own'
    rw [Except.ok.inj own']
  exact lastAlike_of_only listed only

/-- What `stat` shows of a deployment is what its last sync projected, however the deployment
is selected. -/
theorem stat_shows_last_sync (documented : floats.Documented) {earlier later : List (Run F)} {run : Run F}
    {text : List Char}
    (synced : cmdSync floats lowerString (afterRuns floats lowerString none earlier) run = .ok text)
    {reg : Registry} {targets : List DeploymentSpec} (planned : plan lowerString run = .ok (reg, targets))
    {spec : DeploymentSpec} (target : spec ∈ targets)
    (alone : ∀ other ∈ targets, specKey lowerString other = specKey lowerString spec → other = spec)
    (untargeted : Untargeted lowerString (specKey lowerString spec) later)
    (unique : ∀ a, loadExisting floats (afterRuns floats lowerString none (earlier ++ run :: later)) =
      .ok (some a) → (a.deployments.map ArtifactEntry.label).Nodup)
    {document : Document F} {reg' : Registry} (read : Registry.fromDict document = .ok reg')
    {selector : String} {shown : DeploymentSpec} (selected : select lowerString reg' selector = some shown)
    (same : shown.names = spec.names) : ∃ projection, run.project spec = .ok projection ∧
      cmdStat floats lowerString document (afterRuns floats lowerString none (earlier ++ run :: later))
        (some selector) = .ok (projection.entry spec).wholeSecond := by
  have unwritten : loadExisting floats (none : Option (List Char)) = .ok none := rfl
  rw [cmdSync_eq (loadExisting_afterRuns documented unwritten earlier)] at synced
  obtain ⟨artifact, ok, _⟩ := map_success synced
  obtain ⟨projection, own, member⟩ := held_synced ok planned target alone
  have left : held lowerString (earlier.foldl (held lowerString) none) run = some artifact.written := by
    rw [held, ok]
  have filed : WireFormat.Filed lowerString (some artifact.written) := by
    rw [← left]
    exact held_filed (foldl_held_filed (.none lowerString) earlier) run
  obtain ⟨a, final, kept⟩ := foldl_held_keeps filed member untargeted
  have whole : (earlier ++ run :: later).foldl (held lowerString) none = some a := by
    rw [List.foldl_append, List.foldl_cons, left, final]
  have loaded : loadExisting floats (afterRuns floats lowerString none (earlier ++ run :: later)) =
      .ok (some a) := by
    rw [loadExisting_afterRuns documented unwritten, whole]
  have labelled : Labelled (some a) := by
    rw [← whole]
    apply foldl_held_labelled
    rintro _ ⟨⟩
  have distinct : (a.deployments.map (entryKey lowerString)).Nodup := by
    have kept := foldl_held_filed (.none lowerString) (earlier ++ run :: later)
    rw [whole] at kept
    exact (kept a rfl).1
  obtain ⟨present, resolved⟩ := resolve_entry selected labelled distinct (unique a loaded) kept same.symm
  refine ⟨projection, own, ?_⟩
  rw [cmdStat, read]
  revert loaded
  cases afterRuns floats lowerString none (earlier ++ run :: later) with
  | none => simp [loadExisting]
  | some text =>
    intro loaded
    obtain ⟨a', parsed, equal⟩ := map_success loaded
    obtain rfl : a' = a := Option.some.inj equal
    simp only [Except.mapError, ok_bind, parsed, present, resolved]

/-- The deployment on one chain, selected by its address in other letters, after a sync of another
chain. -/
theorem stat_shows_last_sync_two_chains : ∃ projection,
    (gnosisRun firstAddress).project (gnosisSpec firstAddress) = .ok projection ∧
    cmdStat tenths lowerString (sampleDocument "gnosis" "v1" 100 firstAddress)
      (afterRuns tenths lowerString none [gnosisRun firstAddress, sepoliaRun secondAddress])
      (some "100:0X9639AE4C7A8FA9EFE585738D516A3915DDD02AAD") =
        .ok (projection.entry (gnosisSpec firstAddress)).wholeSecond := by
  have unwritten : loadExisting tenths none = .ok none := rfl
  have succeeds : (cmdSync tenths lowerString (afterRuns tenths lowerString none [])
      (gnosisRun firstAddress)).isOk = true := by
    rw [cmdSync_eq (loadExisting_afterRuns tenths_documented unwritten [])]
    rfl
  obtain ⟨text, synced⟩ := success_of_isOk succeeds
  have targeted : (plan lowerString (gnosisRun firstAddress)).toOption.map Prod.snd =
      some [gnosisSpec firstAddress] := rfl
  have accepted : (plan lowerString (gnosisRun firstAddress)).isOk = true := rfl
  obtain ⟨⟨reg, targets⟩, planned⟩ := success_of_isOk accepted
  rw [planned] at targeted
  obtain rfl : targets = [gnosisSpec firstAddress] := Option.some.inj targeted
  have later : Untargeted lowerString (specKey lowerString (gnosisSpec firstAddress)) [sepoliaRun secondAddress] := by
    have keys : (plan lowerString (sepoliaRun secondAddress)).toOption.map (fun planned =>
        planned.2.map DeploymentSpec.chainId) = some [11155111] := rfl
    refine List.forall_mem_singleton.mpr fun reg targets planned target member same => ?_
    rw [planned] at keys
    have only : targets.map DeploymentSpec.chainId = [11155111] := Option.some.inj keys
    have listed := List.mem_map_of_mem (f := DeploymentSpec.chainId) member
    have chain : target.chainId = 100 := congrArg Prod.fst same
    rw [only, chain] at listed
    exact absurd listed (by decide)
  have unique : ∀ a, loadExisting tenths
      (afterRuns tenths lowerString none ([] ++ gnosisRun firstAddress :: [sepoliaRun secondAddress])) =
        .ok (some a) → (a.deployments.map ArtifactEntry.label).Nodup := by
    intro a loaded
    rw [loadExisting_afterRuns tenths_documented unwritten
      ([] ++ gnosisRun firstAddress :: [sepoliaRun secondAddress])] at loaded
    cases loaded
    decide +kernel
  have document : (Registry.fromDict (sampleDocument "gnosis" "v1" 100 firstAddress)).isOk = true := rfl
  obtain ⟨reg', read⟩ := success_of_isOk document
  have selects : (Registry.fromDict (sampleDocument "gnosis" "v1" 100 firstAddress)).toOption.bind (fun reg =>
      select lowerString reg "100:0X9639AE4C7A8FA9EFE585738D516A3915DDD02AAD") =
        some (gnosisSpec firstAddress) := rfl
  rw [read] at selects
  exact stat_shows_last_sync tenths_documented synced planned (List.mem_singleton_self _)
    (fun other member _ => List.mem_singleton.mp member) later unique read selects rfl

end SwarmVolumes.Guarantees.FreshStat
