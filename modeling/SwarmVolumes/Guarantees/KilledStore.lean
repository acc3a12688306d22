import SwarmVolumes.Guarantees.SyncResume
import SwarmVolumes.Source.Indexer.Directory

/-!
# A kill inside a write

A directory whose files hold whole lines spells a store of rows (`Spells`), and a run
killed at the end of a line or of the marker's JSON text leaves one again, so the
runs on text follow the runs on rows. The next run then loads it, and ends with the
history of one uninterrupted sync. A line or a marker that is cut short does not
load.
-/
namespace SwarmVolumes.Guarantees.KilledStore
open Library Source Source.Indexer SyncResume

variable {T P : Type} {d : Source.Deployment T P} {node : Node} {spec : DeploymentSpec}

/-- A part of a write that cuts no line and no marker: nothing of a row or all of
its line, and all of a marker but possibly its newline. -/
def WholePart (characters : Nat) : Write → Prop
  | .row row => characters = 0 ∨ (rowLine row).length ≤ characters
  | .head block => (Json.dumps (headObject block)).length ≤ characters

instance (characters : Nat) : DecidablePred (WholePart characters)
  | .row _ => inferInstanceAs (Decidable (_ ∨ _))
  | .head _ => inferInstanceAs (Decidable (_ ≤ _))

/-- A kill between two writes, or inside one that it does not cut. -/
def Whole (ws : List Write) (kill : Kill) : Prop :=
  ∀ next ∈ ws[kill.writes]?, ∀ characters ∈ kill.characters, WholePart characters next

/-- Every kill of a sequence of runs is whole, among the writes of its run. -/
def WholeKills (d : Source.Deployment T P) (node : Node) (spec : DeploymentSpec) (runs : List SyncRun) :
    Prop :=
  ∀ earlier run later, runs = earlier ++ run :: later → ∀ kill, run.kill = some kill →
    Whole (syncDirectory d node spec run.chunkSize run.headBlock
      (directoryAfter d node spec earlier)).1 kill

/-! ## Text and rows -/

/-- The files hold the lines of the store's rows, and the marker its head. -/
structure Spells (dir : Directory) (s : Store) : Prop where
  files : ∃ files : Dict String (List EventLogRow),
    dir.files = files.map (fun entry => (entry.1, entry.2.flatMap rowLine)) ∧
    (files.flatMap Prod.snd).Perm s.rows
  marker : match s.head with
    | some block => ∃ around, (∀ c ∈ around, Json.isSpace c = true) ∧
        dir.headJson = some (Json.dumps (headObject block) ++ around)
    | none => dir.headJson = none

theorem Spells.empty : Spells .empty .empty := ⟨⟨[], rfl, .refl _⟩, rfl⟩

/-- Text appended to a file, when it is the lines of some rows. -/
theorem Spells.append {dir : Directory} {s : Store} (spells : Spells dir s) (name : String)
    (rows : List EventLogRow) {s' : Store} (added : (s.rows ++ rows).Perm s'.rows)
    (head : s'.head = s.head) :
    Spells { dir with files := dir.files.update name fun old => old.getD [] ++ rows.flatMap rowLine }
      s' := by
  obtain ⟨files, lines, perm⟩ := spells.files
  refine ⟨⟨Dict.update files name fun old => old.getD [] ++ rows, ?_, ?_⟩, ?_⟩
  · rw [Dict.map_update (h := fun old => old.getD [] ++ rows.flatMap rowLine), lines]
    intro old
    cases old with
    | none => rfl
    | some old => exact List.flatMap_append
  · exact (Dict.update_append_perm ..).trans ((perm.append_right rows).trans added)
  · rw [head]
    exact spells.marker

theorem Spells.write {dir : Directory} {s : Store} (spells : Spells dir s) (w : Write) :
    Spells (dir.write w) (s.write w) := by
  cases w with
  | row row =>
    have appended := spells.append row.eventName [row] (s.rows_write_row row).symm rfl
    rwa [List.flatMap_singleton] at appended
  | head block => exact ⟨spells.files, ['\n'], List.forall_mem_singleton.mpr rfl, rfl⟩

theorem Spells.writes {dir : Directory} {s : Store} (spells : Spells dir s) (ws : List Write) :
    Spells (dir.writes ws) (s.writes ws) := by
  induction ws generalizing dir s with
  | nil => exact spells
  | cons w ws ih => exact ih (spells.write w)

/-- A part of a write that is none or all of it, but for a newline after the marker. -/
theorem Spells.writePart {dir : Directory} {s : Store} (spells : Spells dir s) {w : Write}
    {characters : Nat} (whole : WholePart characters w) :
    Spells (dir.writePart characters w) s ∨ Spells (dir.writePart characters w) (s.write w) := by
  cases w with
  | row row =>
    rcases whole with rfl | all
    · exact .inl (spells.append row.eventName [] (.of_eq (List.append_nil _)) rfl)
    · right
      have written := spells.write (.row row)
      rwa [Directory.writePart, List.take_of_length_le all]
  | head block =>
    right
    obtain ⟨more, rfl⟩ := Nat.exists_eq_add_of_le whole
    refine ⟨spells.files, ['\n'].take more, fun c member => ?_, ?_⟩
    · rw [List.mem_singleton.mp (List.mem_of_mem_take member)]
      rfl
    · rw [Directory.writePart, headText, List.take_length_add_append]

/-- What a whole kill leaves: some of the writes, each of them whole. -/
theorem Spells.killed {dir : Directory} {s : Store} (spells : Spells dir s) {ws : List Write}
    {kill : Kill} (whole : Whole ws kill) : ∃ k, Spells (dir.killed ws kill) (s.writes (ws.take k)) := by
  have before := spells.writes (ws.take kill.writes)
  unfold Directory.killed
  dsimp only
  split
  · rename_i next characters listed written
    rcases before.writePart (whole next listed characters written) with none | all
    · exact ⟨kill.writes, none⟩
    · refine ⟨kill.writes + 1, ?_⟩
      rwa [List.take_add_one, listed, Option.toList_some, Store.writes_append]
  · exact ⟨kill.writes, before⟩

/-! ## Loading -/

theorem Spells.loadHead {dir : Directory} {s : Store} (spells : Spells dir s) :
    dir.loadHead = .ok s.head := by
  have marker := spells.marker
  cases head : s.head with
  | none =>
    rw [head] at marker
    rw [Directory.loadHead, marker]
  | some block =>
    rw [head] at marker
    obtain ⟨around, blank, marked⟩ := marker
    exact loadHead_headObject blank marked

/-- The rows of a file of whole lines. -/
def rowsOf (text : List Char) : List EventLogRow := ((readFile text).toOption).getD []

/-- Loading gives one row for each position that the store has. -/
theorem Spells.loadEventLog (node : Node) {dir : Directory} {s : Store} (spells : Spells dir s)
    (distinct : ∀ row ∈ s.rows, row.args.keys.Nodup) :
    ∃ rows : List EventLogRow, dir.loadEventLog node =
        .ok (.fromRows (Dict.index LogRow.position rows).values) ∧
      ∀ row, row ∈ rows ↔ row ∈ s.rows := by
  obtain ⟨files, lines, perm⟩ := spells.files
  have read : ∀ entry ∈ files, readFile (entry.2.flatMap rowLine) = .ok entry.2 :=
    fun entry member => readFile_lines fun row listed =>
      distinct row (perm.mem_iff.mp (List.mem_flatMap.mpr ⟨entry, member, listed⟩))
  have known : ∀ entry ∈ files, rowsOf (entry.2.flatMap rowLine) = entry.2 := fun entry member => by
    rw [rowsOf, read entry member]
    rfl
  have globbed : ∀ entry ∈ node.glob dir.files, readFile entry.2 = .ok (rowsOf entry.2) := by
    intro entry member
    rw [(node.globbed _).mem_iff, lines] at member
    obtain ⟨file, listed, rfl⟩ := List.mem_map.mp member
    dsimp only
    rw [known file listed, read file listed]
  refine ⟨((node.glob dir.files).map fun entry => rowsOf entry.2).flatten, ?_, fun row => ?_⟩
  · rw [Directory.loadEventLog, mapM_ok globbed, ok_bind]
  · rw [← perm.mem_iff, ← List.flatMap_def, List.mem_flatMap, List.mem_flatMap]
    constructor
    · rintro ⟨entry, member, held⟩
      rw [(node.globbed _).mem_iff, lines] at member
      obtain ⟨file, listed, rfl⟩ := List.mem_map.mp member
      rw [known file listed] at held
      exact ⟨file, listed, held⟩
    · rintro ⟨file, listed, held⟩
      refine ⟨(file.1, file.2.flatMap rowLine), ?_, ?_⟩
      · rw [(node.globbed _).mem_iff, lines]
        exact List.mem_map_of_mem listed
      · rwa [known file listed]

/-! ## Runs -/

theorem distinct_args {top : Nat} {s : Store} (consistent : Consistent d node spec top s) :
    ∀ row ∈ s.rows, row.args.keys.Nodup := by
  intro row member
  obtain ⟨log, _, found⟩ := List.mem_filterMap.mp (mem_chainRows.mp (consistent.sound row member)).1
  exact rowOf_args found

/-- A run on text writes what a run on rows does. -/
theorem Spells.sync_writes {dir : Directory} {s : Store} (spells : Spells dir s) {top : Nat}
    (consistent : Consistent d node spec top s) (chunkSize headBlock : Nat) :
    (syncDirectory d node spec chunkSize headBlock dir).1 =
      (acquire d node spec chunkSize headBlock s.head).1 := by
  obtain ⟨rows, loaded, _⟩ := spells.loadEventLog node (distinct_args consistent)
  rw [syncDirectory, loaded, spells.loadHead]
  rfl

/-- A run on text whose kill is whole is a run on rows. -/
theorem Spells.leave {dir : Directory} {s : Store} (spells : Spells dir s) {top : Nat}
    (consistent : Consistent d node spec top s) {run : SyncRun}
    (whole : ∀ kill, run.kill = some kill →
      Whole (syncDirectory d node spec run.chunkSize run.headBlock dir).1 kill) :
    ∃ killedAfter, Spells (run.leave d node spec dir)
      (Attempt.leave d node spec s ⟨run.headBlock, run.chunkSize, killedAfter⟩) := by
  have writes := spells.sync_writes consistent run.chunkSize run.headBlock
  unfold SyncRun.leave Attempt.leave
  dsimp only
  rw [writes] at whole ⊢
  cases killed : run.kill with
  | none => exact ⟨none, spells.writes _⟩
  | some kill =>
    obtain ⟨k, killed⟩ := spells.killed (whole kill killed)
    exact ⟨some k, killed⟩

theorem directoryAfter_append (runs : List SyncRun) (run : SyncRun) :
    directoryAfter d node spec (runs ++ [run]) =
      run.leave d node spec (directoryAfter d node spec runs) :=
  List.foldl_append

/-- The directory after runs with whole kills spells the store after such runs on rows. -/
theorem runs_spell {top : Nat} {runs : List SyncRun} (heads : ∀ run ∈ runs, run.headBlock ≤ top)
    (sizes : ∀ run ∈ runs, 0 < run.chunkSize) (whole : WholeKills d node spec runs) :
    ∃ s, Spells (directoryAfter d node spec runs) s ∧ Consistent d node spec top s := by
  induction runs using List.reverseRecOn with
  | nil => exact ⟨.empty, .empty, .empty top⟩
  | append_singleton runs run ih =>
    obtain ⟨s, spells, consistent⟩ := ih (fun run' member => heads run' (List.mem_append_left _ member))
      (fun run' member => sizes run' (List.mem_append_left _ member))
      fun earlier run' later same => whole earlier run' (later ++ [run]) (by rw [same]; simp)
    obtain ⟨killedAfter, left⟩ := spells.leave consistent (whole runs run [] rfl)
    rw [directoryAfter_append]
    exact ⟨_, left, consistent.leave (sizes run (by simp)) (heads run (by simp))⟩

/-! ## A run to the end -/

theorem Store.mem_writes {ws : List Write} {s : Store} {row : EventLogRow} :
    row ∈ (s.writes ws).rows ↔ row ∈ s.rows ∨ Write.row row ∈ ws := by
  induction ws generalizing s with
  | nil => simp [Store.writes]
  | cons w ws ih =>
    change row ∈ ((s.write w).writes ws).rows ↔ _
    rw [ih]
    cases w with
    | row row' =>
      rw [(s.rows_write_row row').mem_iff]
      simp [or_assoc]
    | head block =>
      have kept : (s.write (.head block)).rows = s.rows := rfl
      rw [kept]
      simp

/-- Every row that a sync acquires is written. -/
theorem acquired_written {chunks : List (LogChunk Nat RawLog)} {deploymentId : DeploymentId}
    {fresh : List EventLogRow} (ok : (syncChunks d deploymentId chunks).2 = .ok fresh) :
    ∀ row ∈ fresh, Write.row row ∈ (syncChunks d deploymentId chunks).1 := by
  induction chunks generalizing fresh with
  | nil =>
    obtain rfl : fresh = [] := (Except.ok.inj ok).symm
    exact nofun
  | cons chunk chunks ih =>
    obtain ⟨start, stop, raw⟩ := chunk
    rw [syncChunks] at ok ⊢
    cases decoded : raw.mapM (decodeLog d deploymentId) with
    | error e =>
      rw [decoded] at ok
      cases ok
    | ok rows =>
      rw [decoded] at ok
      obtain ⟨rest, others, rfl⟩ := map_success ok
      obtain ⟨ordered, appended, perm⟩ := appendRows_eq rows
      intro row member
      dsimp only
      rw [appended, List.append_assoc, List.mem_append, List.mem_append]
      rcases List.mem_append.mp member with here | later
      · exact .inl (List.mem_map_of_mem (perm.mem_iff.mpr here))
      · exact .inr (.inr (ih others row later))

/-- A store after a run to the end holds the rows of the whole range. -/
theorem completed_rows {s : Store} {chunkSize headBlock : Nat} (size : 0 < chunkSize)
    (consistent : Consistent d node spec headBlock s)
    (decodes : Decodes d node spec.deploymentId (genesisOf node spec) headBlock) :
    ∀ row, row ∈ (s.writes (acquire d node spec chunkSize headBlock s.head).1).rows ↔
      row ∈ chainRows d node spec.deploymentId (genesisOf node spec) headBlock := by
  obtain ⟨started, covered⟩ := resumes_covered consistent
  obtain ⟨fresh, ok⟩ : ∃ fresh, (acquire d node spec chunkSize headBlock s.head).2 = .ok fresh :=
    chunks_total size (decodes.mono started (Nat.le_refl _))
  obtain ⟨rows, _⟩ := chunks_rows size (Nat.le_refl _) ok
  have after : Consistent d node spec headBlock
      (Attempt.leave d node spec s ⟨headBlock, chunkSize, none⟩) :=
    consistent.leave size (Nat.le_refl _)
  refine fun row => ⟨after.sound row, fun member => Store.mem_writes.mpr ?_⟩
  obtain ⟨listed, low, high⟩ := mem_chainRows.mp member
  rcases Nat.lt_or_ge row.blockNumber (resumeBlock node spec s.head) with old | new
  · exact .inl (covered.rows row listed low old)
  · exact .inr (acquired_written ok row (rows.mem_iff.mpr (mem_chainRows.mpr ⟨listed, new, high⟩)))

/-- Logs of the same rows are equal as dictionaries. -/
theorem fromRows_congr {rows rows' : List EventLogRow} (positioned : Positioned rows)
    (same : rows.Perm rows') (name : String) :
    (RowLog.fromRows rows).byEvent.get? name = (RowLog.fromRows rows').byEvent.get? name :=
  NamedLogs.get?_congr positioned.apart same name

/-- The runs, whole where they were killed, and one that is not killed. -/
theorem completed_log (identified : Identified node.logs) {runs : List SyncRun}
    {chunkSize headBlock : Nat} (heads : ∀ run ∈ runs, run.headBlock ≤ headBlock)
    (sizes : ∀ run ∈ runs, 0 < run.chunkSize) (size : 0 < chunkSize)
    (whole : WholeKills d node spec runs)
    (decodes : Decodes d node spec.deploymentId (genesisOf node spec) headBlock) :
    ∃ rows, (directoryAfter d node spec (runs ++ [⟨headBlock, chunkSize, none⟩])).loadEventLog node =
        .ok (.fromRows rows) ∧
      rows.Perm (chainRows d node spec.deploymentId (genesisOf node spec) headBlock) := by
  obtain ⟨s, spells, consistent⟩ := runs_spell heads sizes whole
  have ended : directoryAfter d node spec (runs ++ [⟨headBlock, chunkSize, none⟩]) =
      (directoryAfter d node spec runs).writes (acquire d node spec chunkSize headBlock s.head).1 := by
    rw [directoryAfter_append, ← spells.sync_writes consistent]
    rfl
  have all := completed_rows size consistent decodes
  have known : Consistent d node spec headBlock
      (Attempt.leave d node spec s ⟨headBlock, chunkSize, none⟩) :=
    consistent.leave size (Nat.le_refl _)
  obtain ⟨rows, loaded, held⟩ := (spells.writes (acquire d node spec chunkSize headBlock
    s.head).1).loadEventLog node (distinct_args known)
  have chain : ∀ row ∈ rows, row ∈ node.logs.filterMap (rowOf d spec.deploymentId) := fun row member =>
    (mem_chainRows.mp ((all row).mp ((held row).mp member))).1
  obtain ⟨once, indexed⟩ := Dict.index_values (identified.positioned chain)
  refine ⟨_, by rw [ended, loaded], ?_⟩
  refine (List.perm_ext_iff_of_nodup once (identified.nodup _ _)).mpr fun row => ?_
  rw [indexed, held, all]

/-- After any runs whose kills cut no line and no marker, the next run loads the
store, and ends with the history of one uninterrupted sync to the same head. -/
theorem whole_kills_recover (identified : Identified node.logs) {runs : List SyncRun}
    {chunkSize headBlock : Nat} (heads : ∀ run ∈ runs, run.headBlock ≤ headBlock)
    (sizes : ∀ run ∈ runs, 0 < run.chunkSize) (size : 0 < chunkSize)
    (whole : WholeKills d node spec runs) :
    (∃ prior head, (directoryAfter d node spec runs).loadEventLog node = .ok prior ∧
      (directoryAfter d node spec runs).loadHead = .ok head) ∧
    ∀ {chunkSize' : Nat} {fresh : List EventLogRow}, 0 < chunkSize' →
      (acquire d node spec chunkSize' headBlock none).2 = .ok fresh →
      ∃ log log',
        (directoryAfter d node spec (runs ++ [⟨headBlock, chunkSize, none⟩])).loadEventLog node =
          .ok log ∧
        (directoryAfter d node spec [⟨headBlock, chunkSize', none⟩]).loadEventLog node = .ok log' ∧
        ∀ name, log.byEvent.get? name = log'.byEvent.get? name := by
  constructor
  · obtain ⟨s, spells, consistent⟩ := runs_spell heads sizes whole
    obtain ⟨rows, loaded, _⟩ := spells.loadEventLog node (distinct_args consistent)
    exact ⟨_, s.head, loaded, spells.loadHead⟩
  · intro chunkSize' fresh size' uninterrupted
    obtain ⟨_, decodes⟩ := chunks_rows size' (Nat.le_refl _) uninterrupted
    obtain ⟨rows, loaded, perm⟩ := completed_log identified heads sizes size whole decodes
    have unkilled : WholeKills d node spec [] := fun earlier run later same => absurd same (by simp)
    obtain ⟨rows', loaded', perm'⟩ := completed_log identified (by simp) (by simp) size' unkilled decodes
    have positioned : Positioned rows := identified.positioned fun row member =>
      (mem_chainRows.mp (perm.mem_iff.mp member)).1
    exact ⟨_, _, loaded, loaded', fromRows_congr positioned (perm.trans perm'.symm)⟩

/-- A sync of the one fee, killed when it had written all of the marker but its
newline. -/
def markedRun : SyncRun := ⟨100, 10000, some ⟨1, some 24⟩⟩

theorem whole_kills_recover_sample :
    ∃ log log',
      (directoryAfter Sample.deployment feeNode feeSpec
        ([markedRun] ++ [⟨100, 10000, none⟩])).loadEventLog feeNode = .ok log ∧
      (directoryAfter Sample.deployment feeNode feeSpec [⟨100, 1, none⟩]).loadEventLog feeNode =
        .ok log' ∧
      ∀ name, log.byEvent.get? name = log'.byEvent.get? name := by
  have identified : Identified feeNode.logs := List.pairwise_singleton ..
  have written : ∀ next ∈ (syncDirectory Sample.deployment feeNode feeSpec 10000 100 .empty).1[1]?,
      WholePart 24 next := by
    decide +kernel
  have whole : WholeKills Sample.deployment feeNode feeSpec [markedRun] := by
    intro earlier run later same kill killed next listed characters begun
    obtain ⟨rfl, rfl, rfl⟩ : earlier = [] ∧ run = markedRun ∧ later = [] := by
      cases earlier with
      | nil => simpa [eq_comm] using same
      | cons first earlier => simp at same
    cases killed
    cases begun
    exact written next listed
  have acquires : (acquire Sample.deployment feeNode feeSpec 1 100 none).2.isOk = true := by
    decide +kernel
  obtain ⟨fresh, uninterrupted⟩ := success_of_isOk acquires
  exact (whole_kills_recover identified (by simp [markedRun]) (by simp [markedRun]) (by decide)
    whole).2 (by decide) uninterrupted

/-! ## Cut texts -/

theorem not_ok {ε α : Type} {x : Except ε α} (failed : x.isOk = false) (a : α) : x ≠ .ok a := by
  rintro rfl
  cases failed

/-- After a sync killed five characters into the line of its one row, and after one
killed when it had emptied `head.json`, the next run raises when it loads the store.
After one killed before the line's newline it loads it, appends to that line, and
leaves a store that raises. -/
theorem cut_texts_raise :
    (∀ log, (directoryAfter Sample.deployment feeNode feeSpec
      [⟨100, 10000, some ⟨0, some 5⟩⟩]).loadEventLog feeNode ≠ .ok log) ∧
    (∀ head, (directoryAfter Sample.deployment feeNode feeSpec
      [⟨100, 10000, some ⟨1, some 0⟩⟩]).loadHead ≠ .ok head) ∧
    ∀ log, (directoryAfter Sample.deployment feeNode feeSpec
      [⟨100, 10000, some ⟨0, some 434⟩⟩, ⟨100, 10000, none⟩]).loadEventLog feeNode ≠ .ok log := by
  refine ⟨not_ok ?_, not_ok ?_, not_ok ?_⟩
  · decide +kernel
  · decide +kernel
  · decide +kernel

end SwarmVolumes.Guarantees.KilledStore
