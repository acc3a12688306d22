import SwarmVolumes.Source.Published.Sync

/-!
# Selecting what to show

`cmd_stat` of `cli.py:288-326`, to the entry it renders. `str.lower` is a parameter.
-/
namespace SwarmVolumes.Source.Published
open Library Fields
open Indexer (PyError orRaise)

variable {F : Type}

def ArtifactEntry.names (entry : ArtifactEntry F) : Named := ⟨entry.label, entry.chainId, entry.registry⟩

/-- Why nothing is shown. -/
inductive StatRefusal where
  | invalidRegistry (e : PyError)
  | noArtifact
  | raised (e : PyError)
  | notContained (network label : String)
  | unselected (choices : List String)

/-- The pointer a selector names, when the artifact has neither. -/
def missing (reg : Registry) (labels : List String) (selector : Option String) : Option (String × String) := do
  let selector ← selector
  let label ← reg.latest.val.get? selector
  if selector ∉ labels ∧ label ∉ labels then some (selector, label) else none

/-- The choices a refusal lists. -/
def choices (reg : Registry) (labels : List String) : List String :=
  labels ++ ((sortedItems reg.latest.val).filter fun pointer => pointer.2 ∈ labels).map fun pointer =>
    pointer.1 ++ " (= " ++ pointer.2 ++ ")"

/-- `cmd_stat`: the entry it shows. -/
def cmdStat (floats : Floats F) (lower : String → String) (document : Document F)
    (source : Option (List Char)) (selector : Option String) : Except StatRefusal (ArtifactEntry F) := do
  let reg ← (Registry.fromDict document).mapError .invalidRegistry
  match source with
  | none => .error .noArtifact
  | some text => do
    let artifact ← (artifactFromJson floats text).mapError .raised
    let labels := artifact.deployments.map ArtifactEntry.label
    match missing reg labels selector with
    | some (network, label) => .error (.notContained network label)
    | none =>
      match resolve lower ArtifactEntry.names artifact.deployments reg.latest.val selector with
      | none => .error (.unselected (choices reg labels))
      | some entry => .ok entry

end SwarmVolumes.Source.Published
