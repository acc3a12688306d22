import SwarmVolumes.Source.ExportDeployment
import SwarmVolumes.Source.Published.Sample

/-!
# The deployment records over sequences of calls

A network keeps its chain, a version keeps its address and a failing call writes nothing,
through every sequence of calls. The network's pointer is a copy of a record as long as no
call without `latest` rewrites the only record it copies (`records_consistent_iff`).
-/
namespace SwarmVolumes.Guarantees.DeploymentRecords
open Library
open Source.ExportDeployment

variable {F : Type} (floats : Floats F) (str : Document F → List Char)
  (lower : List Char → List Char) (contractName : String)

/-- A call on a tree returns. -/
def Succeeds (tree : Tree) (call : Call F) : Prop :=
  ∃ paths, (writeManifest floats str lower contractName tree call).2 = .ok paths

/-- The address in a record, as text. -/
def addressIn (text : List Char) : List Char :=
  match Document.loads floats text with
  | some (.obj fields) => str ((Dict.get? fields addressKey).getD (.str []))
  | _ => []

/-- The pointer of every network is a copy of one of its records. -/
def PointersCopy (tree : Tree) : Prop :=
  ∀ network text, tree.get? (latestFile contractName network) = some text →
    ∃ version, tree.get? (outputFile contractName network version) = some text

/-- What holds of the tree after a sequence of calls on an empty one. -/
structure Consistent (calls : List (Call F)) : Prop where
  chain : ∀ earlier call, earlier ++ [call] <+: calls →
    Succeeds floats str lower contractName (afterCalls floats str lower contractName earlier) call →
    (afterCalls floats str lower contractName calls).get? (chainFile call.network) =
      some (Json.number call.chainId ++ ['\n'])
  address : ∀ earlier, earlier <+: calls → ∀ network version text,
    (afterCalls floats str lower contractName earlier).get? (outputFile contractName network version) =
      some text →
    ∃ text', (afterCalls floats str lower contractName calls).get?
        (outputFile contractName network version) = some text' ∧
      lower (addressIn floats str text') = lower (addressIn floats str text)
  failing : ∀ call,
    ¬ Succeeds floats str lower contractName (afterCalls floats str lower contractName calls) call →
    afterCalls floats str lower contractName (calls ++ [call]) =
      afterCalls floats str lower contractName calls
  pointers : PointersCopy contractName (afterCalls floats str lower contractName calls)

/-- A call that returns moves the pointer, or writes what the pointer holds, or leaves
another record that holds it. -/
def KeepsCopy (tree : Tree) (call : Call F) : Prop :=
  Succeeds floats str lower contractName tree call → call.latest = false →
    ∀ text, tree.get? (latestFile contractName call.network) = some text →
      text = call.text floats ∨ ∃ version, version ≠ call.version ∧
        tree.get? (outputFile contractName call.network version) = some text

variable {floats str lower contractName}

theorem fails_or_stores (tree : Tree) (call : Call F) :
    (¬ Succeeds floats str lower contractName tree call ∧
      (writeManifest floats str lower contractName tree call).1 = tree) ∨
    Succeeds floats str lower contractName tree call ∧ checkChain tree call = .ok () ∧
      checkRecord floats str lower contractName tree call = .ok () ∧
      (writeManifest floats str lower contractName tree call).1 = store floats contractName tree call := by
  unfold Succeeds
  rcases writeManifest_cases tree call with ⟨e, failed⟩ | ⟨chain, record, stored⟩
  · rw [failed]
    exact .inl ⟨fun ⟨_, ok⟩ => (by cases ok), rfl⟩
  · rw [stored]
    exact .inr ⟨⟨_, rfl⟩, chain, record, rfl⟩

/-! ## The chain of a network -/

theorem chain_kept {tree : Tree} {network : String} {n : Int}
    (recorded : tree.get? (chainFile network) = some (Json.number n ++ ['\n'])) (call : Call F) :
    (writeManifest floats str lower contractName tree call).1.get? (chainFile network) =
      some (Json.number n ++ ['\n']) := by
  rcases fails_or_stores tree call with ⟨_, kept⟩ | ⟨_, chain, _, stored⟩
  · rw [kept, recorded]
  · rw [stored, store_chainFile]
    split
    · rename_i same
      subst same
      rw [checkChain, recorded] at chain
      obtain ⟨read, found, chain⟩ := bind_success chain
      have own := quantity_number (mapError_success found)
      split at chain
      · rename_i agree
        rw [← agree, own]
      · cases chain
    · exact recorded

/-! ## The address of a version -/

theorem addressIn_text (documented : floats.Documented) (call : Call F) :
    addressIn floats str (call.text floats) =
      str ((call.manifest.get? addressKey).getD (.str [])) := by
  have newline : ∀ c ∈ ['\n'], Json.isSpace c = true := List.forall_mem_singleton.mpr rfl
  rw [addressIn, Call.text, Document.loads_dumps documented _ newline]

theorem address_kept (documented : floats.Documented) {tree : Tree} {network version : String}
    {text : List Char} (recorded : tree.get? (outputFile contractName network version) = some text)
    (call : Call F) :
    ∃ text', (writeManifest floats str lower contractName tree call).1.get?
        (outputFile contractName network version) = some text' ∧
      lower (addressIn floats str text') = lower (addressIn floats str text) := by
  rcases fails_or_stores tree call with ⟨_, kept⟩ | ⟨_, _, record, stored⟩
  · rw [kept]
    exact ⟨text, recorded, rfl⟩
  · rw [stored, store_outputFile]
    split
    · rename_i same
      obtain ⟨rfl, rfl⟩ := same
      refine ⟨_, rfl, ?_⟩
      rw [addressIn_text documented]
      rw [checkRecord, recorded] at record
      obtain ⟨fields, read, record⟩ := bind_success record
      have own : addressIn floats str text = str ((fields.get? addressKey).getD (.str [])) := by
        unfold readJson at read
        unfold addressIn
        split at read
        · cases read
        · rename_i loaded
          cases read
          rw [loaded]
        · cases read
      split at record
      · cases record
      · rename_i address found
        split at record
        · rename_i agree
          rw [own, found, Option.getD_some, agree]
        · cases record
    · exact ⟨text, recorded, rfl⟩

/-! ## The pointer of a network -/

theorem pointers_iff {tree : Tree} (copies : PointersCopy contractName tree) (call : Call F) :
    PointersCopy contractName (writeManifest floats str lower contractName tree call).1 ↔
      KeepsCopy floats str lower contractName tree call := by
  rcases fails_or_stores tree call with ⟨failed, kept⟩ | ⟨succeeded, _, _, stored⟩
  · rw [kept]
    exact ⟨fun _ succeeded => absurd succeeded failed, fun _ => copies⟩
  · rw [stored]
    constructor
    · intro after _ kept text pointer
      have left : (store floats contractName tree call).get? (latestFile contractName call.network) =
          some text := by
        rw [store_latestFile, if_neg (by simp [kept]), pointer]
      obtain ⟨version, copy⟩ := after call.network text left
      rw [store_outputFile] at copy
      split at copy
      · exact .inl (Option.some.inj copy).symm
      · rename_i other
        exact .inr ⟨version, fun same => other ⟨rfl, same⟩, copy⟩
    · intro keeps network text pointer
      rw [store_latestFile] at pointer
      split at pointer
      · rename_i moved
        cases pointer
        exact ⟨call.version, by rw [store_outputFile, if_pos ⟨moved.1, rfl⟩]⟩
      · rename_i unmoved
        by_cases here : network = call.network
        · subst here
          have kept : call.latest = false := by simpa using unmoved
          rcases keeps succeeded kept text pointer with rfl | ⟨version, other, copy⟩
          · exact ⟨call.version, by rw [store_outputFile, if_pos ⟨rfl, rfl⟩]⟩
          · exact ⟨version, by rw [store_outputFile, if_neg fun same => other same.2, copy]⟩
        · obtain ⟨version, copy⟩ := copies network text pointer
          exact ⟨version, by rw [store_outputFile, if_neg fun same => here same.1, copy]⟩

/-! ## Sequences of calls -/

/-- What one call keeps, the calls after it keep. -/
theorem kept_by_calls (holds : Tree → Prop)
    (step : ∀ tree call, holds tree → holds (writeManifest floats str lower contractName tree call).1)
    {earlier calls : List (Call F)} (within : earlier <+: calls)
    (start : holds (afterCalls floats str lower contractName earlier)) :
    holds (afterCalls floats str lower contractName calls) := by
  obtain ⟨later, rfl⟩ := within
  induction later using List.reverseRecOn with
  | nil => rwa [List.append_nil]
  | append_singleton later call ih =>
    rw [← List.append_assoc, afterCalls_snoc]
    exact step _ call ih

theorem consistent_of_pointers (documented : floats.Documented) {calls : List (Call F)}
    (pointers : PointersCopy contractName (afterCalls floats str lower contractName calls)) :
    Consistent floats str lower contractName calls where
  chain earlier call within succeeded := by
    refine kept_by_calls (fun tree => tree.get? (chainFile call.network) =
      some (Json.number call.chainId ++ ['\n'])) (fun tree next recorded => chain_kept recorded next)
      within ?_
    rw [afterCalls_snoc]
    rcases fails_or_stores (afterCalls floats str lower contractName earlier) call with
      ⟨failed, _⟩ | ⟨_, _, _, stored⟩
    · exact absurd succeeded failed
    · rw [stored, store_chainFile, if_pos rfl]
  address earlier within network version text recorded := by
    refine kept_by_calls (fun tree => ∃ text', tree.get?
        (outputFile contractName network version) = some text' ∧
      lower (addressIn floats str text') = lower (addressIn floats str text))
      (fun tree next same => ?_) within ⟨text, recorded, rfl⟩
    obtain ⟨text', recorded, same⟩ := same
    obtain ⟨text'', recorded, same'⟩ := address_kept documented recorded next
    exact ⟨text'', recorded, same'.trans same⟩
  failing call failed := by
    rw [afterCalls_snoc]
    rcases fails_or_stores (afterCalls floats str lower contractName calls) call with
      ⟨_, kept⟩ | ⟨succeeded, _⟩
    · exact kept
    · exact absurd succeeded failed
  pointers

/-- Through every sequence of calls, the records are consistent at every point exactly when
every call that leaves a pointer alone leaves a copy of it. -/
theorem records_consistent_iff (floats : Floats F) (documented : floats.Documented)
    (str : Document F → List Char) (lower : List Char → List Char) (contractName : String)
    (calls : List (Call F)) :
    (∀ earlier, earlier <+: calls → Consistent floats str lower contractName earlier) ↔
      ∀ earlier call, earlier ++ [call] <+: calls →
        KeepsCopy floats str lower contractName (afterCalls floats str lower contractName earlier)
          call := by
  constructor
  · intro all earlier call within
    have before := (all earlier ((List.prefix_append earlier [call]).trans within)).pointers
    have after := (all _ within).pointers
    rw [afterCalls_snoc] at after
    exact (pointers_iff before call).mp after
  · intro keeps earlier within
    refine consistent_of_pointers documented ?_
    induction earlier using List.reverseRecOn with
    | nil => exact fun network text pointer => by cases pointer
    | append_singleton earlier call ih =>
      rw [afterCalls_snoc]
      have before := ih ((List.prefix_append earlier [call]).trans within)
      exact (pointers_iff before call).mpr (keeps earlier call within)

/-! ## A record exported twice -/

/-- `str` of a string. -/
def strText : Document Source.Published.Tenths → List Char
  | .str s => s
  | _ => []

def lowerText (s : List Char) : List Char := s.map Char.toLower

/-- An export of one deployment, as built at a commit. -/
def exportAt (commit : Char) (latest : Bool) : Call Source.Published.Tenths where
  network := "gnosis"
  version := "v1"
  chainId := 100
  manifest := [(addressKey, .str Source.Published.firstAddress.toList),
    ("linkedData".toList, .obj [("commit".toList, .str [commit])])]
  latest

/-- The tree after some calls on the registry's records. -/
abbrev recordsAfter (calls : List (Call Source.Published.Tenths)) : Tree :=
  afterCalls Source.Published.tenths strText lowerText "VolumeRegistry" calls

/-- Exporting again with `latest` moves the pointer with the record. -/
theorem records_consistent_reexported : Consistent Source.Published.tenths strText lowerText
    "VolumeRegistry" [exportAt 'a' true, exportAt 'b' true] := by
  refine (records_consistent_iff Source.Published.tenths Source.Published.tenths_documented strText
    lowerText "VolumeRegistry" [exportAt 'a' true, exportAt 'b' true]).mpr ?_ _ (List.prefix_refl _)
  intro earlier call within _ kept
  have moved : ∀ call ∈ [exportAt 'a' true, exportAt 'b' true], call.latest = true :=
    List.forall_mem_cons.mpr ⟨rfl, List.forall_mem_singleton.mpr rfl⟩
  rw [moved call (within.subset (by simp))] at kept
  cases kept

/-- Exporting again without it leaves the pointer a copy of no record. -/
theorem stale_pointer :
    Succeeds Source.Published.tenths strText lowerText "VolumeRegistry" [] (exportAt 'a' true) ∧
    Succeeds Source.Published.tenths strText lowerText "VolumeRegistry"
      (recordsAfter [exportAt 'a' true]) (exportAt 'b' false) ∧
    ¬ Consistent Source.Published.tenths strText lowerText "VolumeRegistry"
      [exportAt 'a' true, exportAt 'b' false] := by
  refine ⟨⟨_, rfl⟩, ⟨_, rfl⟩, fun consistent => ?_⟩
  have tree : recordsAfter [exportAt 'a' true, exportAt 'b' false] =
      store Source.Published.tenths "VolumeRegistry"
        (store Source.Published.tenths "VolumeRegistry" [] (exportAt 'a' true)) (exportAt 'b' false) := rfl
  have pointer : (recordsAfter [exportAt 'a' true, exportAt 'b' false]).get?
      (latestFile "VolumeRegistry" "gnosis") = some ((exportAt 'a' true).text Source.Published.tenths) := rfl
  obtain ⟨version, copy⟩ := consistent.pointers "gnosis" _ pointer
  have apart : (exportAt 'b' false).text Source.Published.tenths ≠
      (exportAt 'a' true).text Source.Published.tenths := by decide +kernel
  change (recordsAfter [exportAt 'a' true, exportAt 'b' false]).get? _ = _ at copy
  rw [tree, store_outputFile, store_outputFile] at copy
  by_cases own : version = "v1"
  · rw [if_pos ⟨rfl, own⟩] at copy
    exact apart (Option.some.inj copy)
  · rw [if_neg fun same => own same.2, if_neg fun same => own same.2] at copy
    cases copy

end SwarmVolumes.Guarantees.DeploymentRecords
