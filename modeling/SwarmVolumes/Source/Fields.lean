import SwarmVolumes.Library.Document
import SwarmVolumes.Library.Fallible
import SwarmVolumes.Source.Indexer.Model

/-!
# Fields of JSON objects

The objects the source writes, and how it reads a field of one. A field whose type is
not the declared one, which the source keeps as it is, raises.
-/
namespace SwarmVolumes.Source.Fields
open Library
open Indexer (PyError orRaise)

/-- A Python `dict` with string keys. -/
abbrev Map (α : Type) := { d : Dict String α // d.keys.Nodup }

def Map.ofFields {α : Type} (fields : List (String × α)) : Map α := ⟨Dict.ofList fields, Dict.nodup_ofList fields⟩

variable {F : Type}

def text (s : String) : Document F := .str s.toList

/-- A `dict` as `json` writes it. -/
def object (d : Dict String (Document F)) : Document F :=
  .obj (d.map fun entry => (entry.1.toList, entry.2))

/-! ## Reading -/

def asText : Document F → Except PyError String
  | .str s => .ok (String.ofList s)
  | _ => .error .typeError

def asInt : Document F → Except PyError Int
  | .int n => .ok n
  | _ => .error .typeError

/-- A time, as it is parsed. -/
def asTimeBy {T : Type} (parse : List Char → Option T) : Document F → Except PyError T
  | .str s => orRaise .valueError (parse s)
  | _ => .error .typeError

def asDict : Document F → Except PyError (Map (Document F))
  | .obj fields => .ok (.ofFields (fields.map fun field => (String.ofList field.1, field.2)))
  | _ => .error .typeError

def asList : Document F → Except PyError (List (Document F))
  | .arr items => .ok items
  | _ => .error .typeError

/-- `obj[key]`. -/
def item (obj : Document F) (key : String) : Except PyError (Document F) := do
  let fields ← asDict obj
  orRaise .keyError (fields.val.get? key)

/-- `dict(obj.get(key, {}))`, of strings. -/
def textMap (obj : Document F) (key : String) : Except PyError (Map String) := do
  let fields ← asDict obj
  match fields.val.get? key with
  | none => .ok (.ofFields [])
  | some found => do
    let entries ← asDict found
    let entries ← entries.val.mapM fun entry => do
      let value ← asText entry.2
      .ok (entry.1, value)
    .ok (.ofFields entries)

/-! ## Reading what was written -/

theorem ofFields_self {α : Type} (d : Map α) : Map.ofFields d.val = d :=
  Subtype.ext (Dict.foldl_set d.property)

@[simp] theorem asText_text (s : String) : asText (text s : Document F) = .ok s := by
  rw [text, asText, String.ofList_toList]

@[simp] theorem asInt_int (n : Int) : asInt (.int n : Document F) = .ok n := rfl

theorem asTimeBy_str {T : Type} (parse : List Char → Option T) (s : List Char) :
    asTimeBy parse (.str s : Document F) = orRaise .valueError (parse s) := rfl

@[simp] theorem asDict_object (d : Map (Document F)) : asDict (object d.val) = .ok d := by
  have fields : (d.val.map fun entry => (entry.1.toList, entry.2)).map
      (fun field => (String.ofList field.1, field.2)) = d.val := by
    rw [List.map_map]
    exact List.map_id'' (fun entry => by simp) _
  rw [object, asDict, fields, ofFields_self]

theorem item_object {d : Dict String (Document F)} {keys : List String} {key : String} {v : Document F}
    (distinct : keys.Nodup) (keyed : d.keys = keys) (found : d.get? key = some v) :
    item (object d) key = .ok v := by
  have dict := asDict_object (⟨d, keyed ▸ distinct⟩ : Map (Document F))
  rw [item, dict, ok_bind, found]
  rfl

/-- A field, when its value is read back. -/
theorem read_item {α : Type} {d : Dict String (Document F)} {keys : List String} {key : String}
    {v : Document F} {decode : Document F → Except PyError α} {a : α} (distinct : keys.Nodup)
    (keyed : d.keys = keys) (found : d.get? key = some v) (read : decode v = .ok a) :
    (item (object d) key >>= decode) = .ok a := by
  rw [item_object distinct keyed found, ok_bind, read]

/-- A list of what was encoded, read one by one. -/
theorem mapM_encoded {α β : Type} {encode : α → Document F} {decode : Document F → Except PyError β}
    {f : α → β} (read : ∀ a, decode (encode a) = .ok (f a)) (as : List α) :
    (as.map encode).mapM decode = .ok (as.map f) := by
  rw [List.mapM_map]
  exact mapM_ok fun a _ => read a

theorem read_list {α β : Type} {d : Dict String (Document F)} {keys : List String} {key : String}
    {as : List α} {encode : α → Document F} {decode : Document F → Except PyError β} {f : α → β}
    (distinct : keys.Nodup) (keyed : d.keys = keys) (found : d.get? key = some (.arr (as.map encode)))
    (read : ∀ a, decode (encode a) = .ok (f a)) :
    (item (object d) key >>= asList >>= List.mapM decode) = .ok (as.map f) := by
  rw [item_object distinct keyed found, ok_bind, asList, ok_bind, mapM_encoded read]

end SwarmVolumes.Source.Fields
