import SwarmVolumes.Library.Calendar
import SwarmVolumes.Source.Indexer.Rows
import SwarmVolumes.Source.Indexer.Store

/-!
# The cache as text

The serialization of `store.py`. A deployment's directory holds the text of each
`.jsonl` file, under the event's name, and of `head.json`; all of it is ASCII, so a
character is a byte. `append_rows` appends one line after another and `save_head`
replaces the marker, so a run that is killed inside a write has made some of its
writes and a prefix of the next one.
-/
namespace SwarmVolumes.Source.Indexer
open Library Fields

/-! ## Rows as lines -/

def Value.toJson : Value → Json
  | .str s => .str s.toList
  | .int n => .int n

/-! A field of a type that no row has, which the source keeps as it is, raises. -/

def asNat : Json → Except PyError Nat
  | .int (.ofNat n) => .ok n
  | _ => .error .typeError

def asValue : Json → Except PyError Value
  | .str s => .ok (.str (String.ofList s))
  | .int n => .ok (.int n)
  | _ => .error .typeError

/-- `obj["args"]`, whose values are kept. -/
def asArgs (json : Json) : Except PyError (Dict String Value) := do
  let fields ← asDict json
  fields.val.mapM fun entry => do
    let value ← asValue entry.2
    .ok (entry.1, value)

/-- The rows that are projected, as the store writes and reads them. -/
def rowCodec : RowCodec Empty Nat Nat (Dict String Value) where
  number n := .int n
  asNumber := asNat
  isoformat := Calendar.isoformat
  fromisoformat := Calendar.fromisoformat
  args args := object (args.map fun entry => (entry.1, entry.2.toJson))
  asArgs

/-- The line of a row. -/
def rowLine : EventLogRow → List Char := rowCodec.rowLine Json.floats

/-- The rows of a file. -/
def readFile : List Char → Except PyError (List EventLogRow) := rowCodec.readFile Json.floats

/-! ## Files -/

/-- `HEAD_BLOCK_KEY`. -/
def headBlockKey : String := "finalized_block"

def headObject (block : Nat) : Json := object [(headBlockKey, .int block)]

/-- The text of `head.json`. -/
def headText (block : Nat) : List Char := Json.dumps (headObject block) ++ ['\n']

/-- A deployment's directory, as text. -/
structure Directory where
  files : Dict String (List Char)
  headJson : Option (List Char)

namespace Directory

def empty : Directory := ⟨[], none⟩

/-- The first `characters` of a write. Opening `head.json` empties it. -/
def writePart (dir : Directory) (characters : Nat) : Write → Directory
  | .row row =>
    { dir with files := dir.files.update row.eventName fun text =>
        text.getD [] ++ (rowLine row).take characters }
  | .head block => { dir with headJson := some ((headText block).take characters) }

/-- A whole write. -/
def write (dir : Directory) : Write → Directory
  | .row row =>
    { dir with files := dir.files.update row.eventName fun text => text.getD [] ++ rowLine row }
  | .head block => { dir with headJson := some (headText block) }

def writes (dir : Directory) (ws : List Write) : Directory := ws.foldl write dir

/-- `load_event_log`. -/
def loadEventLog (node : Node) (dir : Directory) : Except PyError EventLog := do
  let rows ← (node.glob dir.files).mapM fun (_, text) => readFile text
  .ok (.fromRows (Dict.index LogRow.position rows.flatten).values)

/-- `load_head`. -/
def loadHead (dir : Directory) : Except PyError (Option Nat) :=
  match dir.headJson with
  | none => .ok none
  | some text => do
    let json ← orRaise .valueError (Json.loads text)
    let block ← item json headBlockKey >>= asNat
    .ok (some block)

end Directory

variable {T P : Type} {d : Source.Deployment T P}

/-- `_sync_and_project` on a directory: the writes it makes, and what it returns. -/
def syncDirectory (d : Source.Deployment T P) (node : Node) (spec : DeploymentSpec)
    (chunkSize headBlock : Nat) (dir : Directory) : List Write × Except PyError ArtifactEntry :=
  let loaded := do
    let prior ← dir.loadEventLog node
    let head ← dir.loadHead
    .ok (prior, head)
  match loaded with
  | .error e => ([], .error e)
  | .ok (prior, head) =>
    let acquired := acquire d node spec chunkSize headBlock head
    (acquired.1, acquired.2 >>= projectSync node spec headBlock prior)

/-- A kill: the writes that were whole, and of the next one, if it had begun, the
characters that were written. -/
structure Kill where
  writes : Nat
  characters : Option Nat

/-- What is on disk after a kill in a sequence of writes. -/
def Directory.killed (dir : Directory) (ws : List Write) (kill : Kill) : Directory :=
  let dir := dir.writes (ws.take kill.writes)
  match ws[kill.writes]?, kill.characters with
  | some next, some characters => dir.writePart characters next
  | _, _ => dir

/-- One sync run, to its end or killed inside it. -/
structure SyncRun where
  headBlock : Nat
  chunkSize : Nat
  kill : Option Kill

/-- The directory a run leaves. -/
def SyncRun.leave (d : Source.Deployment T P) (node : Node) (spec : DeploymentSpec) (dir : Directory)
    (run : SyncRun) : Directory :=
  let made := (syncDirectory d node spec run.chunkSize run.headBlock dir).1
  match run.kill with
  | some kill => dir.killed made kill
  | none => dir.writes made

/-- The directory after a sequence of runs from an empty one. -/
def directoryAfter (d : Source.Deployment T P) (node : Node) (spec : DeploymentSpec)
    (runs : List SyncRun) : Directory :=
  runs.foldl (SyncRun.leave d node spec) .empty

/-! ## Reading back -/

theorem asValue_toJson (value : Value) : asValue value.toJson = .ok value := by
  cases value with
  | str s => rw [Value.toJson, asValue, String.ofList_toList]
  | int n => rfl

theorem asArgs_toJson {args : Dict String Value} (distinct : args.keys.Nodup) :
    asArgs (object (args.map fun entry => (entry.1, entry.2.toJson))) = .ok args := by
  have keys : Dict.keys (args.map fun entry => (entry.1, entry.2.toJson)) = args.keys := by
    rw [Dict.keys, List.map_map]
    rfl
  have dict := asDict_object (⟨args.map fun entry => (entry.1, entry.2.toJson), keys.symm ▸ distinct⟩ : Map Json)
  rw [asArgs, dict, ok_bind]
  dsimp only
  clear distinct keys dict
  induction args with
  | nil => rfl
  | cons entry args ih =>
    rw [List.map_cons, List.mapM_cons, ih]
    dsimp only
    rw [asValue_toJson]
    rfl

theorem rowCodec_reads {row : EventLogRow} (distinct : row.args.keys.Nodup) : rowCodec.Reads row where
  number _ := rfl
  time := Calendar.fromisoformat_isoformat row.blockTs
  args := asArgs_toJson distinct

/-- A file of whole lines is read back. -/
theorem readFile_lines {rows : List EventLogRow} (distinct : ∀ row ∈ rows, row.args.keys.Nodup) :
    readFile (rows.flatMap rowLine) = .ok rows :=
  readFile_rowLines Json.floats_documented fun row member => rowCodec_reads (distinct row member)

theorem asNat_headObject (block : Nat) : (item (headObject block) headBlockKey >>= asNat) = .ok block :=
  read_item (List.nodup_singleton headBlockKey) rfl rfl rfl

/-- The marker is read back with or without its last newline. -/
theorem loadHead_headObject {dir : Directory} {block : Nat} {around : List Char}
    (blank : ∀ c ∈ around, Json.isSpace c = true)
    (marked : dir.headJson = some (Json.dumps (headObject block) ++ around)) :
    dir.loadHead = .ok (some block) := by
  rw [Directory.loadHead, marked]
  dsimp only
  rw [Json.loads_dumps _ blank]
  change (item (headObject block) headBlockKey >>= asNat >>= fun block => .ok (some block)) = _
  rw [asNat_headObject]
  rfl

/-! ## Decoded rows -/

theorem mapEvent_args {e : Event} {mapped : String × Dict String Value} (ok : mapEvent e = .ok mapped) :
    mapped.2.keys.Nodup := by
  cases e with
  | volumeRetired volumeId reason =>
    obtain ⟨name, _, same⟩ := bind_success ok
    cases same
    simp [Dict.keys]
  | topupSkipped volumeId reason =>
    obtain ⟨name, _, same⟩ := bind_success ok
    cases same
    simp [Dict.keys]
  | _ =>
    cases ok
    simp [Dict.keys]

theorem mapLog_args {log : Log} {mapped : Address × String × Dict String Value}
    (ok : mapLog d log = .ok mapped) : mapped.2.2.keys.Nodup := by
  cases log with
  | registry event =>
    obtain ⟨named, first, same⟩ := bind_success ok
    cases same
    exact mapEvent_args first
  | callee callee =>
    cases callee with
    | transfer src dst value =>
      cases ok
      simp [Dict.keys]
    | other emitter => cases ok

/-- A decoded row has distinct argument names. -/
theorem rowOf_args {deploymentId : DeploymentId} {log : RawLog} {row : EventLogRow}
    (found : rowOf d deploymentId log = some row) : row.args.keys.Nodup := by
  unfold rowOf at found
  split at found
  · cases decoded : decodeLog d deploymentId log with
    | error e =>
      rw [decoded] at found
      cases found
    | ok row' =>
      obtain ⟨mapped, ok, same⟩ := bind_success decoded
      rw [decoded] at found
      cases found
      cases same
      exact mapLog_args ok
  · cases found

end SwarmVolumes.Source.Indexer
