import SwarmVolumes.Guarantees.PayerConsent
import SwarmVolumes.Guarantees.VolumeIdentity

/-!
# Revocation

From a revocation on, until a payer confirms again, nothing happens for the owner: its
creating calls revert, its volumes are only skipped or retired, its nonce stands still
and nobody is charged for it, whatever is called by whom.
-/
namespace SwarmVolumes.Guarantees.Revocation
open Library Source PayerConsent VolumeIdentity

variable {T P : Type} {d : Deployment T P} {msg : Msg} {w w' w₀ : World T P} {o : Address}
variable {outside : World T P → World T P → Prop} {es more : List (Entry T P)}

/-- Nobody stands for `o`: its last successful confirmation was revoked, or there is none. -/
def Unauthorized (o : Address) (es : List (Entry T P)) : Prop := (latest (sets o) es).getD none = none

/-- A successful `confirmAuth(o)`. -/
def Confirms (o : Address) (e : Entry T P) : Prop := e.call = .confirmAuth o ∧ e.Succeeded

theorem Unauthorized.append (off : Unauthorized o es) (unconfirmed : ∀ e ∈ more, ¬ Confirms o e) :
    Unauthorized o (es ++ more) := by
  unfold Unauthorized at off ⊢
  rw [latest_append]
  cases last : latest (sets o) more with
  | none => exact off
  | some standing =>
    obtain ⟨a, c, b, rfl, set, _⟩ := latest_eq_some.mp last
    have quiet := unconfirmed c (by simp)
    unfold sets at set
    split at set
    · rename_i owner call
      split at set
      · rename_i both
        exact absurd ⟨by rw [call, both.1], both.2⟩ quiet
      · cases set
    · split at set
      · cases set
        rfl
      · cases set
    · cases set

theorem run_off (deployed : Deployed d w₀) (run : Run d outside w₀ es w) (off : Unauthorized o es) :
    (w.store.accounts o).active = false ∧ standing (w.store.accounts o) = none := by
  have none := ((run_recorded deployed run).standing o).trans off
  refine ⟨?_, none⟩
  unfold standing at none
  split at none
  · cases none
  · rename_i inactive
    simpa using inactive

/-! ## One call -/

theorem creating_refused (off : (w.store.accounts msg.sender).active = false) {call : Call}
    (creating : call.creating = true) : execute d msg w call = .error .accountNotActive := by
  cases call with
  | createVolume chunkSigner depth bucketDepth ttlExpiry immutableBatch =>
    simp only [execute, createVolume, off, if_true]
    rfl
  | registerVolume batchId ttlExpiry =>
    simp only [execute, registerVolume, registerBatch, off, if_true]
    rfl
  | importVolume batchId ttlExpiry =>
    simp only [execute, importVolume, registerBatch, off, if_true]
    rfl
  | _ => cases creating

/-- The trigger steps never pay for a volume of `o`. -/
theorem step_refused (off : standing (w.store.accounts o) = none) {call : Call} {step : TriggerStep T P}
    (member : step ∈ call.steps d msg w)
    (owned : (step.before.store.volumes step.volumeId).owner = o) :
    step.outcome = .retired ∨ step.outcome = .skipped := by
  obtain ⟨⟨events, trace, volume⟩, ran⟩ := steps_effects member
  have same := (trace_standing volume (Effect.trace_store trace).1).2 o
  have inactive : (step.before.store.accounts o).active ≠ true := by
    intro active
    rw [off, standing, if_pos active] at same
    cases same
  generalize step.outcome = outcome at ran
  generalize step.after = after at ran
  cases triggerOne_end ran with
  | retired => exact .inl rfl
  | noDeficit due auth => exact absurd (owned ▸ auth) inactive
  | toppedUp due auth => exact absurd (owned ▸ auth) inactive
  | _ => exact .inr rfl

theorem nonce_refused {e : Entry T P} (step : CallStep d outside w e w')
    (off : (w.store.accounts o).active = false) :
    (w'.store.accounts o).nonce = (w.store.accounts o).nonce := by
  by_cases creates : e.call.creating = true ∧ e.Succeeded
  · obtain ⟨creating, succeeded⟩ := creates
    obtain ⟨id, _, _, _, nonces, _⟩ := call_creating step creating succeeded
    rw [nonces]
    have other : o ≠ e.msg.sender := by
      rintro rfl
      obtain ⟨value, after, same⟩ := Entry.succeeded_iff.mp succeeded
      rw [← step.idle.store] at off
      rw [step.executed, creating_refused off creating] at same
      cases same
    rw [if_neg other]
  · exact (call_quiet step creates).2.1 o

/-- After the calls `es` nobody stands for `o`, and in the calls that follow nobody
confirms it. Then in each of them: a creating call by `o` reverts with
`AccountNotActive`, trigger steps on its volumes end Retired or Skipped, its nonce does
not move, and nobody is charged for it. -/
theorem revocation_freezes (deployed : Deployed d w₀) (run : Run d outside w₀ (es ++ more) w)
    (off : Unauthorized o es) (unconfirmed : ∀ e ∈ more, ¬ Confirms o e) :
    ∀ e ∈ more,
      (e.msg.sender = o → e.call.creating = true → e.result = .error .accountNotActive) ∧
      (∀ step ∈ e.call.steps d e.msg e.before,
        (step.before.store.volumes step.volumeId).owner = o →
        step.outcome = .retired ∨ step.outcome = .skipped) ∧
      (e.after.store.accounts o).nonce = (e.before.store.accounts o).nonce ∧
      ∀ p, ¬ MovesFor d e o p := by
  intro e member
  obtain ⟨pre, post, rfl⟩ := List.append_of_mem member
  rw [← List.append_assoc] at run
  obtain ⟨a, b, before, step, _⟩ := run.at_label
  have quiet : ∀ x ∈ pre, ¬ Confirms o x := fun x early => unconfirmed x (by simp [early])
  obtain ⟨inactive, nobody⟩ := run_off deployed before (off.append quiet)
  have nonce := nonce_refused step inactive
  have source := fun succeeded c charged => (charge_source (c := c) step succeeded charged).2
  rw [← step.idle.store] at inactive nobody nonce source
  rw [step.left] at nonce
  refine ⟨?_, ?_, nonce, ?_⟩
  · rintro rfl creating
    rw [step.executed]
    exact creating_refused inactive creating
  · intro s inside owned
    exact step_refused nobody inside owned
  · rintro p ⟨succeeded, c, charged, rfl, _⟩
    have stands := source succeeded c charged
    rw [nobody] at stands
    cases stands

/-- The payer revokes the owner of an imported volume, who tries to create another,
while the keeper triggers the one it has. -/
def revoking : List (Msg × Call) :=
  Sample.calls.take 4 ++
    [(⟨Sample.payer, 9⟩, .revoke Sample.owner),
      (⟨Sample.owner, 10⟩, .createVolume 0xC 18 17 0 false),
      (⟨0xD, 11⟩, .trigger Sample.first)]

def revoked : List (Entry Reference.Ledger Reference.Office) × World Reference.Ledger Reference.Office :=
  play Sample.deployment Sample.genesis revoking

theorem revocation_freezes_sample : revoked.1.drop 5 ≠ [] ∧ ∀ e ∈ revoked.1.drop 5,
    (e.after.store.accounts Sample.owner).nonce = (e.before.store.accounts Sample.owner).nonce ∧
    (e.msg.sender = Sample.owner → e.call.creating = true → e.result = .error .accountNotActive) := by
  have run : Run Sample.deployment anything Sample.genesis (revoked.1.take 5 ++ revoked.1.drop 5)
      revoked.2 := by
    rw [List.take_append_drop]
    exact play_run anything_refl (by decide)
  have off : Unauthorized Sample.owner (revoked.1.take 5) := by
    change (latest (sets Sample.owner) (revoked.1.take 5)).getD none = none
    decide
  have unconfirmed : ∀ e ∈ revoked.1.drop 5, ¬ Confirms Sample.owner e := by
    have calls : ∀ call ∈ (revoked.1.drop 5).map Entry.call, call ≠ .confirmAuth Sample.owner := by
      decide
    exact fun e member confirms => calls e.call (List.mem_map_of_mem member) confirms.1
  refine ⟨by decide, fun e member => ?_⟩
  have frozen := revocation_freezes Sample.deployed run off unconfirmed e member
  exact ⟨frozen.2.2.1, frozen.1⟩

end SwarmVolumes.Guarantees.Revocation
