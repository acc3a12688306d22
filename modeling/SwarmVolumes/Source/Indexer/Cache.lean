import SwarmVolumes.Library.Calendar
import SwarmVolumes.Source.Indexer.Rows
import Mathlib.Data.List.Infix

/-!
# The store directory

`store.py` over the deployments of one store directory, with the rows of `model.py`
as the store takes them: numbers of any size, a UTC time to the microsecond, and
arguments of any JSON value. A path is the list of its parts. The file system refuses
no write, and integers are converted without a limit on their digits.
-/
namespace SwarmVolumes.Source.Cache
open Library
open Indexer (PyError LogRow RowLog RowCodec readFile_rowLines)
open Fields

/-- `(chain_id, registry_address)`. -/
abbrev DeploymentId := Int × String

/-- One decoded log. -/
abbrev EventLogRow (F : Type) := LogRow Int Calendar.DateTime (Map (Document F))

abbrev EventLog (F : Type) := RowLog Int Calendar.DateTime (Map (Document F))

variable {F : Type}

/-! ## Paths -/

/-- The parts of a path, the outermost first. -/
abbrev Path := List (List Char)

/-- The parts of a relative path. -/
def parts (s : List Char) : Path :=
  (s.splitOnP fun c => c = '/').filter fun part => part ≠ [] ∧ part ≠ ['.']

/-- `dir / s`; an absolute path stands for itself. -/
def joinpath (dir : Path) (s : List Char) : Path :=
  if s.head? = some '/' then ['/'] :: parts s else dir ++ parts s

/-- `f"{chain_id}_{registry}"`. -/
def dirName (deploymentId : DeploymentId) : List Char :=
  Json.number deploymentId.1 ++ '_' :: deploymentId.2.toList

def deploymentDir (storeDir : Path) (deploymentId : DeploymentId) : Path :=
  joinpath storeDir (dirName deploymentId)

/-- `.jsonl`. -/
def jsonl : List Char := ['.', 'j', 's', 'o', 'n', 'l']

/-- `f"{event_name}.jsonl"`. -/
def fileName (eventName : String) : List Char := eventName.toList ++ jsonl

def eventLogPath (storeDir : Path) (deploymentId : DeploymentId) (eventName : String) : Path :=
  joinpath (deploymentDir storeDir deploymentId) (fileName eventName)

/-! ## The file system -/

/-- The directories and the text of the files. -/
structure Tree where
  dirs : List Path
  files : Dict Path (List Char)

namespace Tree

def empty : Tree := ⟨[], []⟩

/-- `mkdir(parents=True, exist_ok=True)`. -/
def mkdir (tree : Tree) (dir : Path) : Tree := { tree with dirs := tree.dirs ++ dir.inits }

/-- A write to a file that is open for appending. -/
def append (tree : Tree) (path : Path) (text : List Char) : Tree :=
  { tree with files := tree.files.update path fun old => old.getD [] ++ text }

def isDir (tree : Tree) (dir : Path) : Prop := dir ∈ tree.dirs

instance (tree : Tree) (dir : Path) : Decidable (tree.isDir dir) := inferInstanceAs (Decidable (_ ∈ _))

/-- `dir.glob("*.jsonl")`, with the text of each file. -/
def glob (tree : Tree) (dir : Path) : Dict Path (List Char) :=
  tree.files.filter fun file => file.1.dropLast = dir ∧ jsonl <:+ file.1.getLastD []

end Tree

/-- The order a directory is listed in. -/
structure Listing where
  order : Dict Path (List Char) → Dict Path (List Char)
  perm : ∀ files, (order files).Perm files

/-! ## Rows as lines -/

/-- Rows as the store takes them. -/
def rowCodec : RowCodec F Int Calendar.DateTime (Map (Document F)) where
  number := .int
  asNumber := asInt
  isoformat := Calendar.DateTime.isoformat
  fromisoformat := Calendar.DateTime.parse
  args args := object args.val
  asArgs := asDict

section
variable (floats : Floats F)

/-- `json.dumps(_row_to_json(row)) + "\n"`. -/
def rowLine : EventLogRow F → List Char := rowCodec.rowLine floats

/-- The rows of a file. -/
def readFile : List Char → Except PyError (List (EventLogRow F)) := rowCodec.readFile floats

/-- The rows of one file, appended line by line. -/
def appendFile (tree : Tree) (file : Path × List (EventLogRow F)) : Tree :=
  file.2.foldl (fun tree row => tree.append file.1 (rowLine floats row)) (tree.mkdir file.1.dropLast)

/-- `append_rows`. -/
def appendRows (storeDir : Path) (tree : Tree) (rows : List (EventLogRow F)) : Tree :=
  (Dict.group (fun row => eventLogPath storeDir row.deploymentId row.eventName) rows).foldl
    (appendFile floats) tree

/-- The file system after a sequence of calls on a new store directory. -/
def appended (storeDir : Path) (calls : List (List (EventLogRow F))) : Tree :=
  calls.foldl (appendRows floats storeDir) .empty

/-- `load_event_log`. -/
def loadEventLog (listing : Listing) (storeDir : Path) (deploymentId : DeploymentId) (tree : Tree) :
    Except PyError (EventLog F) :=
  let depDir := deploymentDir storeDir deploymentId
  if tree.isDir depDir then do
    let rows ← (listing.order (tree.glob depDir)).mapM fun (_, text) => readFile floats text
    .ok (.fromRows (Dict.index LogRow.position rows.flatten).values)
  else .ok (.fromRows [])

end

/-! ## Reading back -/

theorem rowCodec_reads (row : EventLogRow F) : (rowCodec (F := F)).Reads row where
  number _ := rfl
  time := Calendar.DateTime.parse_isoformat row.blockTs
  args := asDict_object row.args

/-- A file of whole lines is read back. -/
theorem readFile_lines {floats : Floats F} (documented : floats.Documented) (rows : List (EventLogRow F)) :
    readFile floats (rows.flatMap (rowLine floats)) = .ok rows :=
  readFile_rowLines documented fun row _ => rowCodec_reads row

/-! ## Names of files -/

/-- A name that is one part of a path. -/
def Plain (name : String) : Prop := '/' ∉ name.toList

instance : DecidablePred Plain := fun _ => inferInstanceAs (Decidable (_ ∉ _))

theorem joinpath_plain (dir : Path) {s : List Char} (plain : '/' ∉ s) (solid : s ≠ []) (named : s ≠ ['.']) :
    joinpath dir s = dir ++ [s] := by
  have relative : s.head? ≠ some '/' := fun first => plain (List.mem_of_mem_head? first)
  have whole : (s.splitOnP fun c => c = '/') = [s] := List.splitOnP_eq_singleton fun c member => by
    rw [decide_eq_false_iff_not]
    rintro rfl
    exact plain member
  rw [joinpath, if_neg relative, parts, whole, List.filter_cons_of_pos (by simp [solid, named]), List.filter_nil]

/-- Deployments have directories of their own. -/
theorem dirName_injective {first second : DeploymentId} (same : dirName first = dirName second) :
    first = second := by
  have ends : ∀ name : String, Ends ('_' :: name.toList) := fun _ => Document.ends_of_head rfl (by decide)
  obtain ⟨chain, rest⟩ := Document.number_append_inj (ends first.2) (ends second.2) same
  exact Prod.ext chain (String.toList_injective (List.tail_eq_of_cons_eq rest))

theorem deploymentDir_plain (storeDir : Path) {deploymentId : DeploymentId} (plain : Plain deploymentId.2) :
    deploymentDir storeDir deploymentId = storeDir ++ [dirName deploymentId] := by
  have mark : '_' ∈ dirName deploymentId := List.mem_append_right _ (List.mem_cons_self ..)
  refine joinpath_plain storeDir (fun slash => ?_) (List.ne_nil_of_mem mark) fun dot => ?_
  · rcases List.mem_append.mp slash with digit | rest
    · exact absurd (Json.numeric_of_mem digit) (by decide)
    · exact plain (by simpa using rest)
  · rw [dot] at mark
    exact absurd mark (by decide)

theorem eventLogPath_plain (storeDir : Path) {deploymentId : DeploymentId} {eventName : String}
    (plain : Plain deploymentId.2) (named : Plain eventName) :
    eventLogPath storeDir deploymentId eventName =
      storeDir ++ [dirName deploymentId] ++ [fileName eventName] := by
  have mark : 'j' ∈ fileName eventName := List.mem_append_right _ (by decide)
  rw [eventLogPath, deploymentDir_plain storeDir plain]
  refine joinpath_plain _ (fun slash => ?_) (List.ne_nil_of_mem mark) fun dot => ?_
  · rcases List.mem_append.mp slash with inside | suffix
    · exact named inside
    · exact absurd suffix (by decide)
  · rw [dot] at mark
    exact absurd mark (by decide)

end SwarmVolumes.Source.Cache
