import SwarmVolumes.Source.Fields
import Mathlib.Data.List.DropRight

/-!
# Rows as lines

The rows of `store.py` as the lines of a file. How a row's numbers, its time and its
arguments are written and read is a parameter (`RowCodec`). A file of whole lines is
read back (`readFile_rowLines`).
-/
namespace SwarmVolumes.Source.Indexer
open Library Fields

variable {F N T A : Type}

/-- How the numbers, the time and the arguments of a row are written and read. -/
structure RowCodec (F N T A : Type) where
  number : N → Document F
  asNumber : Document F → Except PyError N
  isoformat : T → List Char
  fromisoformat : List Char → Option T
  args : A → Document F
  asArgs : Document F → Except PyError A

/-! ## Lines -/

/-- The lines of a file; a carriage return ends one too. -/
def lines (text : List Char) : List (List Char) := text.splitOnP fun c => c = '\n' ∨ c = '\r'

/-- `str.strip`, on ASCII text. -/
def isBlank (c : Char) : Bool := c = ' ' ∨ (9 ≤ c.toNat ∧ c.toNat ≤ 13) ∨ (28 ≤ c.toNat ∧ c.toNat ≤ 31)

def strip (line : List Char) : List Char := (line.dropWhile isBlank).rdropWhile isBlank

/-! ## Rows as JSON -/

namespace RowCodec

variable (codec : RowCodec F N T A)

/-- `_row_to_json`. -/
def rowToJson (row : LogRow N T A) : Document F := object
  [("deployment_id", .arr [codec.number row.deploymentId.1, text row.deploymentId.2]),
   ("block_number", codec.number row.blockNumber),
   ("block_ts", .str (codec.isoformat row.blockTs)),
   ("tx_hash", text row.txHash),
   ("tx_index", codec.number row.txIndex),
   ("log_index", codec.number row.logIndex),
   ("emitter", text row.emitter),
   ("event_name", text row.eventName),
   ("args", codec.args row.args)]

/-- `datetime.fromisoformat`. -/
def asTime : Document F → Except PyError T := asTimeBy codec.fromisoformat

/-- `chain_id, registry = obj`. -/
def asDeploymentId : Document F → Except PyError (N × String)
  | .arr [chainId, registry] => do
    let chainId ← codec.asNumber chainId
    let registry ← asText registry
    .ok (chainId, registry)
  | .arr _ => .error .valueError
  | _ => .error .typeError

/-- `_row_from_json`. -/
def rowFromJson (obj : Document F) : Except PyError (LogRow N T A) := do
  let deploymentId ← item obj "deployment_id" >>= codec.asDeploymentId
  let blockNumber ← item obj "block_number" >>= codec.asNumber
  let blockTs ← item obj "block_ts" >>= codec.asTime
  let txHash ← item obj "tx_hash" >>= asText
  let txIndex ← item obj "tx_index" >>= codec.asNumber
  let logIndex ← item obj "log_index" >>= codec.asNumber
  let emitter ← item obj "emitter" >>= asText
  let eventName ← item obj "event_name" >>= asText
  let args ← item obj "args" >>= codec.asArgs
  .ok { deploymentId, blockNumber, blockTs, txHash, txIndex, logIndex, emitter, eventName, args }

variable (floats : Floats F)

/-- `json.dumps(_row_to_json(row))`. -/
def line (row : LogRow N T A) : List Char := Document.line floats (codec.rowToJson row)

/-- The line of a row. -/
def rowLine (row : LogRow N T A) : List Char := codec.line floats row ++ ['\n']

/-- `_row_from_json(json.loads(line))`. -/
def readLine (line : List Char) : Except PyError (LogRow N T A) := do
  let json ← orRaise .valueError (Document.loads floats line)
  codec.rowFromJson json

/-- The rows of a file. -/
def readFile (text : List Char) : Except PyError (List (LogRow N T A)) :=
  (((lines text).map strip).filter fun line => line ≠ []).mapM (codec.readLine floats)

/-- What is written of a row's parts is read back. -/
structure Reads (row : LogRow N T A) : Prop where
  number : ∀ n, codec.asNumber (codec.number n) = .ok n
  time : codec.fromisoformat (codec.isoformat row.blockTs) = some row.blockTs
  args : codec.asArgs (codec.args row.args) = .ok row.args

end RowCodec

/-! ## Reading lines back -/

theorem strip_braces (inner : List Char) : strip ('{' :: (inner ++ ['}'])) = '{' :: (inner ++ ['}']) := by
  have brace : isBlank '{' = false := rfl
  rw [strip, List.dropWhile_cons_of_neg (by simp [brace]), ← List.cons_append]
  exact List.rdropWhile_concat_neg isBlank ('{' :: inner) '}' (by decide)

theorem lines_printed {text : List Char} (printed : Json.Prints text) (rest : List Char) :
    lines (text ++ '\n' :: rest) = text :: lines rest := by
  refine List.splitOnP_append_cons_of_forall_mem (fun c member => ?_) '\n' rfl rest
  obtain ⟨low, _⟩ := printed c member
  have feed : c ≠ '\n' := fun same => absurd (same ▸ low) (by decide)
  have carriage : c ≠ '\r' := fun same => absurd (same ▸ low) (by decide)
  simp [feed, carriage]

variable {codec : RowCodec F N T A} {floats : Floats F}

/-- What was written for a row is read back as the row. -/
theorem rowFromJson_rowToJson {row : LogRow N T A} (reads : codec.Reads row) :
    codec.rowFromJson (codec.rowToJson row) = .ok row := by
  have distinct : ["deployment_id", "block_number", "block_ts", "tx_hash", "tx_index", "log_index", "emitter",
      "event_name", "args"].Nodup := by decide
  have time : codec.asTime (.str (codec.isoformat row.blockTs)) = .ok row.blockTs := by
    rw [RowCodec.asTime, asTimeBy_str, reads.time]
    rfl
  have deployment : codec.asDeploymentId (.arr [codec.number row.deploymentId.1, text row.deploymentId.2]) =
      .ok row.deploymentId := by
    rw [RowCodec.asDeploymentId, reads.number, ok_bind, asText_text, ok_bind]
  have number := reads.number
  have args := reads.args
  unfold RowCodec.rowFromJson RowCodec.rowToJson
  rw [read_item distinct rfl rfl deployment, ok_bind, read_item distinct rfl rfl (number _), ok_bind,
    read_item distinct rfl rfl time, ok_bind, read_item distinct rfl rfl (asText_text _), ok_bind,
    read_item distinct rfl rfl (number _), ok_bind, read_item distinct rfl rfl (number _), ok_bind,
    read_item distinct rfl rfl (asText_text _), ok_bind, read_item distinct rfl rfl (asText_text _), ok_bind,
    read_item distinct rfl rfl args, ok_bind]

theorem readLine_line (documented : floats.Documented) {row : LogRow N T A} (reads : codec.Reads row) :
    codec.readLine floats (codec.line floats row) = .ok row := by
  rw [RowCodec.readLine, RowCodec.line, Document.loads_line documented, orRaise, ok_bind,
    rowFromJson_rowToJson reads]

/-- A row's line is between braces. -/
theorem line_braces (codec : RowCodec F N T A) (floats : Floats F) (row : LogRow N T A) :
    ∃ inner, codec.line floats row = '{' :: (inner ++ ['}']) := Document.line_obj floats _

theorem lines_rowLine (row : LogRow N T A) (rest : List Char) :
    lines (codec.rowLine floats row ++ rest) = codec.line floats row :: lines rest := by
  rw [RowCodec.rowLine, List.append_assoc, List.singleton_append]
  exact lines_printed (Document.prints_writeAt floats 0 (codec.rowToJson row)) rest

/-- A file of whole lines is read back. -/
theorem readFile_rowLines (documented : floats.Documented) {rows : List (LogRow N T A)}
    (reads : ∀ row ∈ rows, codec.Reads row) :
    codec.readFile floats (rows.flatMap (codec.rowLine floats)) = .ok rows := by
  unfold RowCodec.readFile
  induction rows with
  | nil => rfl
  | cons row rows ih =>
    obtain ⟨first, rest⟩ := List.forall_mem_cons.mp reads
    obtain ⟨inner, text⟩ := line_braces codec floats row
    have stripped : strip (codec.line floats row) = codec.line floats row := by
      rw [text]
      exact strip_braces inner
    have solid : codec.line floats row ≠ [] := text ▸ List.cons_ne_nil _ _
    rw [List.flatMap_cons, lines_rowLine, List.map_cons, stripped,
      List.filter_cons_of_pos (by simpa using solid), List.mapM_cons, readLine_line documented first, ih rest]
    rfl

end SwarmVolumes.Source.Indexer
