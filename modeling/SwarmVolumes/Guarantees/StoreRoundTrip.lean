import SwarmVolumes.Source.Indexer.Cache
import SwarmVolumes.Source.Published.Sample

/-!
# What is appended is loaded

After any sequence of `append_rows` calls a store directory holds the lines of the
appended rows, each in its row's file (`Holds`): one step adds the lines of one file,
and a call is a run of such steps. Loading a deployment reads the files in its
directory, which are those of its own rows, and keeps one row for each position. Its
log is then that of the set of those rows (`Faithful`).
-/
namespace SwarmVolumes.Guarantees.StoreRoundTrip
open Library Source Source.Cache
open Source.Fields (Map)
open Source.Indexer (LogRow RowLog Precedes Positioned inOrder precedes_iff)

variable {F : Type} {floats : Floats F} {storeDir : Path}

/-- The rows of one deployment among those of a sequence of calls. -/
def ownRows (deploymentId : DeploymentId) (calls : List (List (EventLogRow F))) : List (EventLogRow F) :=
  calls.flatten.filter fun row => row.deploymentId = deploymentId

/-- The registry is an address and the event has a name, neither with a slash. -/
structure Filed (row : EventLogRow F) : Prop where
  registry : Plain row.deploymentId.2
  event : Plain row.eventName

/-- The log of a set of rows: each of them once, in strict chain order, and apart by
the name of the event. -/
structure Faithful (log : EventLog F) (rows : List (EventLogRow F)) : Prop where
  once : log.merged.Nodup
  kept : ∀ row, row ∈ log.merged ↔ row ∈ rows
  ordered : log.merged.Pairwise Precedes
  names : log.byEvent.keys.Nodup ∧
    ∀ name, name ∈ log.byEvent.keys ↔ ∃ row ∈ rows, row.eventName = name
  parts : ∀ entry ∈ log.byEvent, entry.2 = log.merged.filter (fun row => row.eventName = entry.1) ∧
    entry.2.Pairwise Precedes

/-! ## The files hold the rows -/

/-- The file of a row. -/
def pathOf (storeDir : Path) (row : EventLogRow F) : Path :=
  eventLogPath storeDir row.deploymentId row.eventName

/-- The lines of the rows are in the files, those of a row in its own, and their
directories are there. -/
structure Holds (floats : Floats F) (storeDir : Path) (tree : Tree) (rows : List (EventLogRow F)) : Prop where
  files : ∃ files : Dict Path (List (EventLogRow F)),
    tree.files = files.map (fun file => (file.1, file.2.flatMap (rowLine floats))) ∧
    (files.flatMap Prod.snd).Perm rows ∧ ∀ file ∈ files, ∀ row ∈ file.2, pathOf storeDir row = file.1
  dirs : ∀ row ∈ rows, tree.isDir (pathOf storeDir row).dropLast

theorem Holds.empty : Holds floats storeDir .empty ([] : List (EventLogRow F)) :=
  ⟨⟨[], rfl, .refl _, nofun⟩, nofun⟩

theorem Holds.perm {tree : Tree} {rows rows' : List (EventLogRow F)} (holds : Holds floats storeDir tree rows)
    (same : rows.Perm rows') : Holds floats storeDir tree rows' := by
  obtain ⟨files, lines, perm, placed⟩ := holds.files
  exact ⟨⟨files, lines, perm.trans same, placed⟩, fun row member => holds.dirs row (same.mem_iff.mpr member)⟩

theorem Holds.mkdir {tree : Tree} {rows : List (EventLogRow F)} (holds : Holds floats storeDir tree rows)
    (dir : Path) : Holds floats storeDir (tree.mkdir dir) rows :=
  ⟨holds.files, fun row member => List.mem_append_left _ (holds.dirs row member)⟩

theorem isDir_mkdir (tree : Tree) (dir : Path) : (tree.mkdir dir).isDir dir :=
  List.mem_append_right _ ((List.mem_inits dir dir).mpr (List.prefix_refl dir))

/-- One line, written to the file of its row. -/
theorem Holds.append {tree : Tree} {rows : List (EventLogRow F)} (holds : Holds floats storeDir tree rows)
    {row : EventLogRow F} (dir : tree.isDir (pathOf storeDir row).dropLast) :
    Holds floats storeDir (tree.append (pathOf storeDir row) (rowLine floats row)) (rows ++ [row]) := by
  obtain ⟨files, lines, perm, placed⟩ := holds.files
  refine ⟨⟨Dict.push files (pathOf storeDir row) row, ?_, ?_, ?_⟩, ?_⟩
  · rw [Tree.append, Dict.push,
      Dict.map_update (h := fun old => old.getD [] ++ rowLine floats row), lines]
    intro old
    cases old with
    | none => simp
    | some old => simp
  · exact (Dict.push_perm ..).trans (perm.append_right _)
  · intro file member held listed
    rcases Dict.mem_update member with old | ⟨_ | rows, rfl, present⟩
    · exact placed file old held listed
    · exact congrArg _ (List.mem_singleton.mp listed)
    · rcases List.mem_append.mp listed with old | new
      · exact placed _ (present rows rfl) held old
      · exact congrArg _ (List.mem_singleton.mp new)
  · intro held member
    rcases List.mem_append.mp member with old | new
    · exact holds.dirs held old
    · rw [List.mem_singleton.mp new]
      exact dir

/-- The lines of one file. -/
theorem Holds.appendFile {tree : Tree} {rows : List (EventLogRow F)} (holds : Holds floats storeDir tree rows)
    {file : Path × List (EventLogRow F)} (placed : ∀ row ∈ file.2, pathOf storeDir row = file.1) :
    Holds floats storeDir (appendFile floats tree file) (rows ++ file.2) := by
  obtain ⟨path, added⟩ := file
  have made := holds.mkdir path.dropLast
  have dir : (tree.mkdir path.dropLast).isDir path.dropLast := isDir_mkdir tree _
  unfold Cache.appendFile
  dsimp only at placed ⊢
  generalize tree.mkdir path.dropLast = tree at made dir
  clear holds
  induction added generalizing tree rows with
  | nil => rwa [List.append_nil]
  | cons row added ih =>
    obtain rfl := placed row (List.mem_cons_self ..)
    have rest := ih (fun other member => placed other (List.mem_cons_of_mem _ member)) _
      (made.append dir) dir
    rwa [List.append_assoc, List.singleton_append] at rest

/-- One call. -/
theorem Holds.appendRows {tree : Tree} {rows : List (EventLogRow F)} (holds : Holds floats storeDir tree rows)
    (call : List (EventLogRow F)) :
    Holds floats storeDir (appendRows floats storeDir tree call) (rows ++ call) := by
  have grouped : ∀ file ∈ Dict.group (pathOf storeDir) call, ∀ row ∈ file.2, pathOf storeDir row = file.1 := by
    intro file member row listed
    rw [Dict.of_mem_group member] at listed
    simpa using List.of_mem_filter listed
  have added : Holds floats storeDir
      ((Dict.group (pathOf storeDir) call).foldl (Cache.appendFile floats) tree)
      (rows ++ (Dict.group (pathOf storeDir) call).flatMap Prod.snd) := by
    generalize Dict.group (pathOf storeDir) call = files at grouped
    induction files generalizing tree rows with
    | nil => rwa [List.flatMap_nil, List.append_nil]
    | cons file files ih =>
      have rest := ih (holds.appendFile (grouped file (List.mem_cons_self ..)))
        fun other member => grouped other (List.mem_cons_of_mem _ member)
      rwa [List.append_assoc] at rest
  exact added.perm ((Dict.group_perm ..).append_left _)

/-- A sequence of calls. -/
theorem appended_holds (floats : Floats F) (storeDir : Path) (calls : List (List (EventLogRow F))) :
    Holds floats storeDir (appended floats storeDir calls) calls.flatten := by
  induction calls using List.reverseRecOn with
  | nil => exact .empty
  | append_singleton calls call ih =>
    rw [appended, List.foldl_append, List.flatten_append, List.flatten_singleton]
    exact ih.appendRows call

/-! ## Loading -/

/-- A row's file is in the directory of its deployment and of no other. -/
theorem globbed_iff (storeDir : Path) {deploymentId : DeploymentId} (plain : Plain deploymentId.2)
    {row : EventLogRow F} (filed : Filed row) : (pathOf storeDir row).dropLast = deploymentDir storeDir deploymentId ∧
      jsonl <:+ (pathOf storeDir row).getLastD [] ↔ row.deploymentId = deploymentId := by
  have path : pathOf storeDir row = storeDir ++ [dirName row.deploymentId] ++ [fileName row.eventName] :=
    eventLogPath_plain storeDir filed.registry filed.event
  rw [path, List.dropLast_concat, List.getLastD_concat, deploymentDir_plain storeDir plain]
  constructor
  · rintro ⟨same, _⟩
    exact dirName_injective (List.head_eq_of_cons_eq (List.append_cancel_left same))
  · rintro rfl
    exact ⟨rfl, List.suffix_append ..⟩

/-- The rows of a file of whole lines. -/
def rowsOf (floats : Floats F) (text : List Char) : List (EventLogRow F) :=
  (readFile floats text).toOption.getD []

/-- Loading reads the lines of the deployment's own rows. -/
theorem Holds.read (documented : floats.Documented) {tree : Tree} {rows : List (EventLogRow F)}
    (holds : Holds floats storeDir tree rows) (listing : Listing) {deploymentId : DeploymentId}
    (plain : Plain deploymentId.2) (filed : ∀ row ∈ rows, Filed row) :
    ∃ read : List (List (EventLogRow F)),
      (listing.order (tree.glob (deploymentDir storeDir deploymentId))).mapM
        (fun file => readFile floats file.2) = .ok read ∧
      ∀ row, row ∈ read.flatten ↔ row ∈ rows ∧ row.deploymentId = deploymentId := by
  obtain ⟨files, lines, perm, placed⟩ := holds.files
  have known : ∀ file : Path × List (EventLogRow F),
      readFile floats (file.2.flatMap (rowLine floats)) = .ok file.2 := fun file =>
    readFile_lines documented file.2
  have held : ∀ file ∈ files, rowsOf floats (file.2.flatMap (rowLine floats)) = file.2 := fun file _ => by
    rw [rowsOf, known]
    rfl
  have globbed : ∀ file, file ∈ listing.order (tree.glob (deploymentDir storeDir deploymentId)) ↔
      ∃ held ∈ files, (held.1.dropLast = deploymentDir storeDir deploymentId ∧
        jsonl <:+ held.1.getLastD []) ∧ (held.1, held.2.flatMap (rowLine floats)) = file := by
    intro file
    rw [(listing.perm _).mem_iff, Tree.glob, lines, List.mem_filter, List.mem_map]
    constructor
    · rintro ⟨⟨held, member, rfl⟩, inside⟩
      exact ⟨held, member, by simpa using inside, rfl⟩
    · rintro ⟨held, member, inside, rfl⟩
      exact ⟨⟨held, member, rfl⟩, by simpa using inside⟩
  refine ⟨_, mapM_ok (g := fun file => rowsOf floats file.2) fun file member => ?_, fun row => ?_⟩
  · obtain ⟨source, _, _, rfl⟩ := (globbed file).mp member
    rw [rowsOf, known]
    rfl
  · rw [← List.flatMap_def, List.mem_flatMap, ← perm.mem_iff, List.mem_flatMap]
    constructor
    · rintro ⟨file, member, listed⟩
      obtain ⟨source, among, inside, rfl⟩ := (globbed file).mp member
      rw [held source among] at listed
      rw [← placed source among row listed] at inside
      have own := filed row (perm.mem_iff.mp (List.mem_flatMap.mpr ⟨source, among, listed⟩))
      exact ⟨⟨source, among, listed⟩, (globbed_iff storeDir plain own).mp inside⟩
    · rintro ⟨⟨source, among, listed⟩, same⟩
      have own := filed row (perm.mem_iff.mp (List.mem_flatMap.mpr ⟨source, among, listed⟩))
      have inside := (globbed_iff storeDir plain own).mpr same
      rw [placed source among row listed] at inside
      exact ⟨_, (globbed _).mpr ⟨source, among, inside, rfl⟩, by rwa [held source among]⟩

theorem mem_ownRows {deploymentId : DeploymentId} {calls : List (List (EventLogRow F))} {row : EventLogRow F} :
    row ∈ ownRows deploymentId calls ↔ row ∈ calls.flatten ∧ row.deploymentId = deploymentId := by
  rw [ownRows, List.mem_filter, decide_eq_true_iff]

/-- What is loaded: the log of the deployment's own rows, each of them once. -/
theorem loaded_rows (documented : floats.Documented) (listing : Listing) (storeDir : Path)
    {deploymentId : DeploymentId} {calls : List (List (EventLogRow F))} (plain : Plain deploymentId.2)
    (filed : ∀ row ∈ calls.flatten, Filed row) (identified : Positioned (ownRows deploymentId calls)) :
    ∃ rows, loadEventLog floats listing storeDir deploymentId (appended floats storeDir calls) =
        .ok (.fromRows rows) ∧
      rows.Nodup ∧ ∀ row, row ∈ rows ↔ row ∈ ownRows deploymentId calls := by
  have holds := appended_holds floats storeDir calls
  unfold loadEventLog
  dsimp only
  split
  · obtain ⟨read, ok, own⟩ := holds.read documented listing plain filed
    have positioned : ∀ a ∈ read.flatten, ∀ b ∈ read.flatten, a.position = b.position → a = b :=
      fun a first b second => identified a (mem_ownRows.mpr ((own a).mp first)) b
        (mem_ownRows.mpr ((own b).mp second))
    obtain ⟨distinct, kept⟩ := Dict.index_values positioned
    refine ⟨_, by rw [ok, ok_bind], distinct, fun row => ?_⟩
    rw [kept, own, mem_ownRows]
  · rename_i missing
    refine ⟨[], rfl, List.nodup_nil, fun row => ⟨nofun, fun member => absurd ?_ missing⟩⟩
    obtain ⟨among, same⟩ := mem_ownRows.mp member
    have dir := holds.dirs row among
    rwa [((globbed_iff storeDir plain (filed row among)).mpr same).1] at dir

/-! ## The log of a set of rows -/

/-- Rows that their positions identify, each of them once. -/
theorem faithful_fromRows {rows : List (EventLogRow F)} (distinct : rows.Nodup)
    (identified : Positioned rows) : Faithful (.fromRows rows) rows := by
  have perm : (RowLog.fromRows rows).merged.Perm rows := NamedLogs.merged_perm rows
  have sorted : (RowLog.fromRows rows).merged = rows.insertionSort inOrder :=
    NamedLogs.merged_eq identified.apart
  have ordered : (RowLog.fromRows rows).merged.Pairwise Precedes := by
    rw [sorted]
    exact (NamedLogs.sort_strict identified.apart distinct).imp precedes_iff.mpr
  have part : ∀ entry ∈ (RowLog.fromRows rows).byEvent,
      entry.2 = (RowLog.fromRows rows).merged.filter fun row => row.eventName = entry.1 :=
    fun entry member => NamedLogs.log_eq identified.apart member
  refine ⟨perm.nodup_iff.mpr distinct, fun row => perm.mem_iff, ordered, ⟨?_, fun name => ?_⟩, ?_⟩
  · have keys : (RowLog.fromRows rows).byEvent.keys = (Dict.group LogRow.eventName rows).keys :=
      NamedLogs.keys_ofValues rows
    rw [keys]
    exact (Dict.group_keys LogRow.eventName rows).1
  · exact NamedLogs.mem_keys
  · intro entry member
    refine ⟨part entry member, ?_⟩
    rw [part entry member]
    exact ordered.filter _

/-- For any `append_rows` calls over any split, order and repetition of rows, in which
the position of a deployment's row identifies it, `load_event_log` returns the log of
the set of the deployment's rows: each of them once, as it was appended, in strict
chain order and apart by event. Other calls with the same rows of the deployment,
whatever rows of others they append, load the same log. -/
theorem store_round_trip (documented : floats.Documented) (listing : Listing) (storeDir : Path)
    {deploymentId : DeploymentId} {calls : List (List (EventLogRow F))} (plain : Plain deploymentId.2)
    (filed : ∀ row ∈ calls.flatten, Filed row) (identified : Positioned (ownRows deploymentId calls)) :
    ∃ log, loadEventLog floats listing storeDir deploymentId (appended floats storeDir calls) = .ok log ∧
      Faithful log (ownRows deploymentId calls) ∧
      ∀ (listing' : Listing) (storeDir' : Path) (calls' : List (List (EventLogRow F))),
        (∀ row ∈ calls'.flatten, Filed row) →
        (∀ row, row ∈ ownRows deploymentId calls' ↔ row ∈ ownRows deploymentId calls) →
        ∃ log', loadEventLog floats listing' storeDir' deploymentId (appended floats storeDir' calls') =
            .ok log' ∧
          log'.merged = log.merged ∧ ∀ name, log'.byEvent.get? name = log.byEvent.get? name := by
  obtain ⟨rows, loaded, distinct, own⟩ := loaded_rows documented listing storeDir plain filed identified
  have positioned : Positioned rows := fun a first b second =>
    identified a ((own a).mp first) b ((own b).mp second)
  have faithful := faithful_fromRows distinct positioned
  refine ⟨_, loaded, { faithful with
    kept := fun row => (faithful.kept row).trans (own row)
    names := ⟨faithful.names.1, fun name => ?_⟩ }, ?_⟩
  · rw [faithful.names.2]
    exact exists_congr fun row => and_congr_left fun _ => own row
  · intro listing' storeDir' calls' filed' same
    obtain ⟨rows', loaded', distinct', own'⟩ := loaded_rows documented listing' storeDir' plain filed'
      fun a first b second => identified a ((same a).mp first) b ((same b).mp second)
    have perm : rows.Perm rows' := (List.perm_ext_iff_of_nodup distinct distinct').mpr fun row => by
      rw [own, own', same]
    have positioned' : Positioned rows' := fun a first b second =>
      positioned a (perm.mem_iff.mpr first) b (perm.mem_iff.mpr second)
    refine ⟨_, loaded', ?_, fun name => (NamedLogs.get?_congr positioned.apart perm name).symm⟩
    have sorted : (RowLog.fromRows rows).merged = rows.insertionSort inOrder :=
      NamedLogs.merged_eq positioned.apart
    have sorted' : (RowLog.fromRows rows').merged = rows'.insertionSort inOrder :=
      NamedLogs.merged_eq positioned'.apart
    rw [sorted, sorted', NamedLogs.sort_congr positioned.apart perm]

/-! ## Two calls with a row of another deployment -/

open Published (Tenths tenths tenths_documented)

def sampleId : DeploymentId := (100, "0x9639ae4c7a8fa9efe585738d516a3915ddd02aad")

def sampleRow (deploymentId : DeploymentId) (logIndex : Int) (eventName : String)
    (args : Map (Document Tenths)) : EventLogRow Tenths where
  deploymentId
  blockNumber := 38211904
  blockTs := ⟨⟨2026, 6, 9⟩, 12, 0, 5, 250000, by decide⟩
  txHash := "0x01"
  txIndex := 0
  logIndex
  emitter := deploymentId.2
  eventName
  args

def created : EventLogRow Tenths :=
  sampleRow sampleId 3 "VolumeCreated" ⟨[("volume_id", .str ['0', 'x']), ("depth", .int 20)], by decide⟩

def fee : EventLogRow Tenths :=
  sampleRow sampleId 2 "Transfer" ⟨[("value", .int (10 ^ 30)), ("parts", .arr [.null, .float (false, 25)])], by decide⟩

def elsewhere : EventLogRow Tenths :=
  sampleRow (11155111, sampleId.2) 2 "Transfer" ⟨[("value", .int 1)], by decide⟩

def sampleCalls : List (List (EventLogRow Tenths)) := [[created, fee], [elsewhere, fee]]

/-- A directory is listed in the order its files were made. -/
def asMade : Listing := ⟨id, fun _ => .refl _⟩

theorem filed_sample : ∀ row ∈ [created, fee, elsewhere], Filed row := by
  simp only [List.forall_mem_cons]
  exact ⟨⟨by decide, by decide⟩, ⟨by decide, by decide⟩, ⟨by decide, by decide⟩, nofun⟩

theorem ownRows_sample : ownRows sampleId sampleCalls = [created, fee, fee] := rfl

theorem store_round_trip_sample : ∃ log log',
    loadEventLog tenths asMade [] sampleId (appended tenths [] sampleCalls) = .ok log ∧
    Faithful log [created, fee, fee] ∧
    loadEventLog tenths asMade [] sampleId (appended tenths [] [[fee], [created]]) = .ok log' ∧
    log'.merged = log.merged := by
  have listed : ∀ row ∈ sampleCalls.flatten, row ∈ [created, fee, elsewhere] := by
    simp [sampleCalls]
  have identified : Positioned (ownRows sampleId sampleCalls) := by
    rw [ownRows_sample]
    intro a first b second same
    simp only [List.mem_cons, List.not_mem_nil, or_false, or_self] at first second
    rcases first with rfl | rfl
    · rcases second with rfl | rfl
      · rfl
      · exact absurd same (by decide)
    · rcases second with rfl | rfl
      · exact absurd same (by decide)
      · rfl
  obtain ⟨log, loaded, faithful, others⟩ := store_round_trip tenths_documented asMade []
    (by decide) (fun row member => filed_sample row (listed row member)) identified
  obtain ⟨log', loaded', same, _⟩ := others asMade [] [[fee], [created]]
    (fun row member => filed_sample row (by
      simp only [List.flatten_cons, List.flatten_nil, List.append_nil, List.mem_append, List.mem_singleton] at member
      rcases member with rfl | rfl
      · simp
      · simp))
    (fun row => by
      have own : ownRows sampleId [[fee], [created]] = [fee, created] := rfl
      rw [own, ownRows_sample]
      simp [or_comm])
  exact ⟨log, log', loaded, ownRows_sample ▸ faithful, loaded', same⟩

end SwarmVolumes.Guarantees.StoreRoundTrip
