import SwarmVolumes.Source.Reference
import SwarmVolumes.Source.Registry.Payments

/-!
# A sample registry

A registry wired to the reference contracts, the world it is deployed into and
a short history: a payer confirms an owner, who imports an existing batch,
creates another and deletes the first volume, while a keeper triggers it before,
during and after its life.
-/
namespace SwarmVolumes.Source.Sample
open Library Reference

/-- A stand-in for the hash, injective on the pairs of words the registry hashes. -/
def pack : List (BitVec 256) → Bytes32
  | [a, b] => BitVec.ofNat 256 (a.toNat * 2 ^ 64 + b.toNat)
  | _ => 0

def deployment : Deployment Ledger Office where
  address := 0x100
  postage := 0x200
  bzz := tokenAddress
  graceBlocks := 10
  bzzPermitExpiry := true
  token := bzz
  stamp := stamp 0x200 fun sender nonce => pack [abiAddress sender, nonce]
  keccak256 := pack

def owner : Address := 0xB
def payer : Address := 0xA
def batch : Bytes32 := 7

/-- Postage knows one batch, with 5 of the 30 per chunk a volume needs. -/
def office : Office where
  batches id := if id = batch then ⟨0xC, 20, 16, false, 5, 100⟩ else ⟨0, 0, 0, false, 0, 0⟩
  lastPrice := 3
  totalOutPayment := 0
  lastUpdatedBlock := 100
  minimumValidityBlocks := 5
  minimumBucketDepth := 16
  paused := false

/-- The payer approved the registry without limit. -/
def ledger : Ledger where
  balances a := if a = payer then 2 ^ 40 else 0
  allowances o s := if o = payer ∧ s = 0x100 then Word.unlimited else 0
  expiries _ _ := 0

def genesis : World Ledger Office := ⟨.empty, ledger, office, ⟨100, 1000⟩, []⟩

/-- The owner's first and second volume ID. -/
def first : Bytes32 := deployment.volumeId owner 0
def second : Bytes32 := deployment.volumeId owner 1

def calls : List (Msg × Call) :=
  [(⟨owner, 1⟩, .designateFundingWallet payer),
    (⟨payer, 2⟩, .confirmAuth owner),
    (⟨0xD, 3⟩, .trigger first),
    (⟨owner, 4⟩, .importVolume batch 0),
    (⟨owner, 5⟩, .createVolume 0xC 18 17 5000 false),
    (⟨0xD, 6⟩, .triggerMany [first, second, first]),
    (⟨owner, 7⟩, .deleteVolume first),
    (⟨0xD, 8⟩, .trigger first)]

def entries : List (Entry Ledger Office) := (play deployment genesis calls).1
def final : World Ledger Office := (play deployment genesis calls).2

theorem deployed : Deployed deployment genesis := ⟨rfl, rfl⟩

theorem run {outside : World Ledger Office → World Ledger Office → Prop}
    (still : ∀ w, outside w w) : Run deployment outside genesis entries final :=
  play_run still (by decide)

/-- The world the import finds. -/
def confirmed : World Ledger Office := (play deployment genesis (calls.take 3)).2

theorem confirmed_reachable {outside : World Ledger Office → World Ledger Office → Prop}
    (still : ∀ w, outside w w) : Reachable deployment outside genesis confirmed :=
  ⟨_, _, play_run still (by decide), .refl _, still _⟩

/-- The import, as the run makes it. -/
def imported : Entry Ledger Office :=
  ⟨confirmed, ⟨owner, 4⟩, .importVolume batch 0,
    execute deployment ⟨owner, 4⟩ confirmed (.importVolume batch 0)⟩

theorem entries_split : entries = entries.take 3 ++ imported :: entries.drop 4 := rfl

/-- A shorter history, which registers the batch without funding it. -/
def enrolling : List (Msg × Call) :=
  calls.take 2 ++ [(⟨owner, 4⟩, .registerVolume batch 0)]

def enrolled : World Ledger Office := (play deployment genesis enrolling).2

theorem enrolled_run {outside : World Ledger Office → World Ledger Office → Prop}
    (still : ∀ w, outside w w) :
    Run deployment outside genesis (play deployment genesis enrolling).1 enrolled :=
  play_run still (by decide)

theorem documented : deployment.Documented := ⟨by decide, by decide, bzz_documented, stamp_documented⟩

example : entries.map (fun e => e.result.isOk) = List.replicate 8 true := by decide

end SwarmVolumes.Source.Sample
