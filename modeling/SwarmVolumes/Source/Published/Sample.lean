import SwarmVolumes.Source.Published.Sync

/-!
# Sample runs

Floats with one decimal, and runs over a registry document of one deployment.
-/
namespace SwarmVolumes.Source.Published
open Library Fields

/-- A sign and a number of tenths. -/
abbrev Tenths := Bool × Nat

theorem isDigit_tenth (n : Nat) : ∀ c ∈ [(n % 10).digitChar], c.isDigit = true := by
  have all : ∀ d < 10, (Nat.digitChar d).isDigit = true := by decide
  exact List.forall_mem_singleton.mpr (all _ (Nat.mod_lt n (by decide)))

def tenths : Floats Tenths where
  repr x := ⟨x.1, x.2 / 10, ⟨[(x.2 % 10).digitChar], isDigit_tenth x.2⟩, none⟩
  parse n := some (n.negative, 10 * n.whole + Nat.ofDigitChars 10 n.fraction.val 0)

theorem tenths_documented : tenths.Documented where
  marked x plain := by cases plain.1
  round x := by
    have all : ∀ d < 10, Nat.ofDigitChars 10 [Nat.digitChar d] 0 = d := by decide
    have digit := all (x.2 % 10) (Nat.mod_lt _ (by decide))
    have whole := Nat.div_add_mod x.2 10
    exact congrArg some (Prod.ext rfl (by simp only [tenths, digit, whole]))

def sampleTime : DateTime := ⟨⟨2026, 6, 9⟩, 12, 0, 0, 0, by decide⟩

def sampleProjection : Projection Tenths where
  genesisTs := ⟨⟨2026, 5, 20⟩, 8, 0, 0, 0, by decide⟩
  asOf := ⟨38211904, sampleTime⟩
  fiatCurrencies := ["USD"]
  extra := ⟨[("grace_blocks", .int 17280), ("postage", text "0x45a1")], by decide⟩
  snapshot := ⟨.float (false, 12043), ⟨1182, 0, 0⟩, ⟨470, ⟨[("1d", .int 12), ("7d", .int 41)], by decide⟩⟩⟩
  feeVolumeDaily := [⟨"2026-06-08", .float (false, 31)⟩]
  capacityDaily := [⟨"2026-06-08", 1180, 0, 0⟩]
  accountsDaily := [⟨"2026-06-08", 469⟩]
  priceDaily := [⟨"2026-06-08", ⟨[("USD", .float (false, 3))], by decide⟩⟩]

/-- A document of one deployment, which its network points to. -/
def sampleDocument (network version : String) (chainId : Int) (registry : String) : Document Tenths :=
  object [("deployments", .arr [object [("network", text network), ("registry_version", text version),
      ("chain_id", .int chainId), ("registry", text registry)]]),
    ("latest", object [(network, text (deploymentLabel network version))])]

/-- A run over all of a document. -/
def sampleRun (document : Document Tenths) (chainId : Int) : Run Tenths where
  document
  deployment := none
  rpc := some "http://localhost:8545"
  environ _ := none
  connect _ := some chainId
  project _ := .ok sampleProjection
  now := sampleTime

def firstAddress : String := "0x9639ae4c7a8fa9efe585738d516a3915ddd02aad"

def secondAddress : String := "0x3a99b4b52a4bd75760667219ea93c627051b1af8"

def gnosisRun (registry : String) : Run Tenths := sampleRun (sampleDocument "gnosis" "v1" 100 registry) 100

/-- The one deployment of the document of `gnosisRun`. -/
def gnosisSpec (registry : String) : DeploymentSpec where
  network := "gnosis"
  registryVersion := "v1"
  chainId := 100
  registry
  genesisBlock := none
  named := by decide +kernel

/-- The file after a run over `gnosisSpec`. -/
def gnosisArtifact (registry : String) : Artifact Tenths where
  schemaVersion
  generatedAt := sampleTime
  deployments := [sampleProjection.entry (gnosisSpec registry)]
  latest := ⟨[("gnosis", "gnosis-v1")], by decide⟩

def sepoliaRun (registry : String) : Run Tenths :=
  sampleRun (sampleDocument "sepolia" "v1" 11155111 registry) 11155111

end SwarmVolumes.Source.Published
