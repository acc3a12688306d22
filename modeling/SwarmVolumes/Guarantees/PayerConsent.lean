import SwarmVolumes.Library.Latest
import SwarmVolumes.Guarantees.ChargeCorrectness

/-!
# Payer consent

An account is a register its owner and its payer set: a confirmation by the
designated payer turns it on, a revocation off. Whoever is charged for an owner
is what this register holds, so every charge goes back to a confirmation by the
charged address that nothing has ended since.
-/
namespace SwarmVolumes.Guarantees.PayerConsent
open Library Source

variable {T P : Type} {d : Deployment T P} {sender : Address} {s s' : Storage}

/-- `e` is a `designateFundingWallet` by `owner`; who it names. -/
def designates (owner : Address) (e : Entry T P) : Option Address :=
  match e.call with
  | .designateFundingWallet payer => if e.msg.sender = owner then some payer else none
  | _ => none

/-- What a successful `confirmAuth(owner)` or `revoke(owner)` sets: the payer that
consents from now on, or nobody. -/
def sets (owner : Address) (e : Entry T P) : Option (Option Address) :=
  match e.call with
  | .confirmAuth o => if o = owner ∧ e.Succeeded then some (some e.msg.sender) else none
  | .revoke o => if o = owner ∧ e.Succeeded then some none else none
  | _ => none

/-- The payer an account stands for. -/
def standing (a : Account) : Option Address := if a.active then some a.payer else none

theorem standing_eq_some {a : Account} {p : Address} :
    standing a = some p ↔ a.active = true ∧ a.payer = p := by
  simp [standing]

theorem step_standing {e : Event} (volume : ¬ e.ofAccount) (step : StoreStep d sender s e s') :
    s'.designated = s.designated ∧ ∀ o, standing (s'.accounts o) = standing (s.accounts o) := by
  cases step with
  | designated payer => exact absurd trivial volume
  | activated owner named => exact absurd trivial volume
  | revoked owner allowed => exact absurd trivial volume
  | admitted timestamp nextNonce announced owner auth named unused =>
    refine ⟨rfl, fun o => ?_⟩
    rw [Storage.enter_accounts]
    split
    · rfl
    · rfl
  | retired active retired =>
    obtain ⟨accounts, designated, _⟩ := Storage.retire_frame retired
    exact ⟨designated, fun o => by rw [accounts]⟩
  | toppedUp active => exact ⟨rfl, fun _ => rfl⟩
  | skipped guarded => exact ⟨rfl, fun _ => rfl⟩

theorem trace_standing {events : List Event} (volume : ∀ e ∈ events, ¬ e.ofAccount)
    (trace : Trace (StoreStep d sender) s events s') :
    s'.designated = s.designated ∧ ∀ o, standing (s'.accounts o) = standing (s.accounts o) := by
  refine (trace.restrict volume).invariant (fun t => t.designated = s.designated ∧
    ∀ o, standing (t.accounts o) = standing (s.accounts o)) ⟨rfl, fun _ => rfl⟩ ?_
  rintro t e t' ⟨step, quiet⟩ ⟨designated, accounts⟩
  obtain ⟨sameDesignated, sameAccounts⟩ := step_standing quiet step
  exact ⟨sameDesignated.trans designated, fun o => (sameAccounts o).trans (accounts o)⟩

/-- Only the account API emits account events, one for each call. -/
theorem emits_account {call : Call} {value : Option Bytes32} {events : List Event}
    (emits : Emits sender call value events) :
    (∃ payer, call = .designateFundingWallet payer ∧ events = [.payerDesignated sender payer]) ∨
    (∃ o, call = .confirmAuth o ∧ events = [.accountActivated o sender]) ∨
    (∃ o p, call = .revoke o ∧ events = [.accountRevoked o p sender]) ∨
    ((∀ payer, call ≠ .designateFundingWallet payer) ∧ (∀ o, call ≠ .confirmAuth o) ∧
      (∀ o, call ≠ .revoke o) ∧ ∀ e ∈ events, ¬ e.ofAccount) := by
  cases emits with
  | designateFundingWallet => exact .inl ⟨_, rfl, rfl⟩
  | confirmAuth => exact .inr (.inl ⟨_, rfl, rfl⟩)
  | revoke => exact .inr (.inr (.inl ⟨_, _, rfl, rfl⟩))
  | importVolume triggered =>
    refine .inr (.inr (.inr ⟨by simp, by simp, by simp, fun e member => ?_⟩))
    rcases List.mem_cons.mp member with rfl | later
    · simp [Event.ofAccount]
    · exact triggerOf_volume (triggered e later)
  | trigger triggered =>
    exact .inr (.inr (.inr ⟨by simp, by simp, by simp, fun e member =>
      triggerOf_volume (triggered e member)⟩))
  | triggerMany triggered =>
    refine .inr (.inr (.inr ⟨by simp, by simp, by simp, fun e member => ?_⟩))
    obtain ⟨id, _, about⟩ := triggered e member
    exact triggerOf_volume about
  | reap triggered =>
    exact .inr (.inr (.inr ⟨by simp, by simp, by simp, fun e member =>
      triggerOf_volume (triggered e member)⟩))
  | _ => exact .inr (.inr (.inr ⟨by simp, by simp, by simp, by simp [Event.ofAccount]⟩))

/-! ## The account as a register -/

variable {outside : World T P → World T P → Prop} {w₀ w w' : World T P} {es : List (Entry T P)}

/-- Storage holds what the history set last. -/
structure Recorded (es : List (Entry T P)) (s : Storage) : Prop where
  designated : ∀ o, s.designated o = (latest (designates o) es).getD 0
  standing : ∀ o, standing (s.accounts o) = (latest (sets o) es).getD none

/-- A reverted call sets nothing. -/
theorem sets_failed {e : Entry T P} (failed : ¬ e.Succeeded) (o : Address) : sets o e = none := by
  unfold sets
  split
  · exact if_neg fun both => failed both.2
  · exact if_neg fun both => failed both.2
  · rfl

theorem sets_confirmAuth {e : Entry T P} {owner : Address} (call : e.call = .confirmAuth owner)
    (succeeded : e.Succeeded) (o : Address) :
    sets o e = if o = owner then some (some e.msg.sender) else none := by
  simp [sets, call, succeeded, eq_comm]

theorem sets_revoke {e : Entry T P} {owner : Address} (call : e.call = .revoke owner)
    (succeeded : e.Succeeded) (o : Address) :
    sets o e = if o = owner then some none else none := by
  simp [sets, call, succeeded, eq_comm]

/-- `designateFundingWallet` does not revert. -/
theorem designates_succeeded {e : Entry T P} (step : CallStep d outside w e w')
    (failed : ¬ e.Succeeded) (o : Address) : designates o e = none := by
  unfold designates
  split
  · rename_i payer same
    refine absurd ?_ failed
    rw [Entry.Succeeded, step.executed, same]
    rfl
  · rfl

theorem Recorded.step {e : Entry T P} (recorded : Recorded es w.store)
    (step : CallStep d outside w e w') : Recorded (es ++ [e]) w'.store := by
  obtain ⟨events, trace, _, emits, failed⟩ := step.store
  by_cases succeeded : e.Succeeded
  · rcases emits_account (emits succeeded) with ⟨payer, call, rfl⟩ | ⟨owner, call, rfl⟩ |
      ⟨owner, p, call, rfl⟩ | ⟨noDesignation, noConfirmation, noRevocation, volume⟩
    · obtain ⟨mid, taken, rest⟩ := trace.uncons
      rw [rest.nil_eq]
      cases taken with
      | admitted _ _ announced => cases announced
      | designated _ =>
        refine ⟨fun o => ?_, fun o => ?_⟩
        · rw [latest_snoc, designates, call]
          by_cases same : e.msg.sender = o
          · rw [← same]
            simp
          · simpa [same, Function.update_of_ne (Ne.symm same)] using recorded.designated o
        · rw [latest_snoc, sets, call]
          exact recorded.standing o
    · obtain ⟨mid, taken, rest⟩ := trace.uncons
      rw [rest.nil_eq]
      cases taken with
      | admitted _ _ announced => cases announced
      | activated _ named =>
        refine ⟨fun o => ?_, fun o => ?_⟩
        · rw [latest_snoc, designates, call]
          exact recorded.designated o
        · rw [latest_snoc, sets_confirmAuth call succeeded, Storage.setAccount_accounts]
          by_cases same : o = owner
          · rw [if_pos same, if_pos same]
            rfl
          · rw [if_neg same, if_neg same]
            exact recorded.standing o
    · obtain ⟨mid, taken, rest⟩ := trace.uncons
      rw [rest.nil_eq]
      cases taken with
      | admitted _ _ announced => cases announced
      | revoked _ allowed =>
        refine ⟨fun o => ?_, fun o => ?_⟩
        · rw [latest_snoc, designates, call]
          exact recorded.designated o
        · rw [latest_snoc, sets_revoke call succeeded, Storage.setAccount_accounts]
          by_cases same : o = owner
          · rw [if_pos same, if_pos same]
            rfl
          · rw [if_neg same, if_neg same]
            exact recorded.standing o
    · obtain ⟨designated, standing⟩ := trace_standing volume trace
      refine ⟨fun o => ?_, fun o => ?_⟩
      · have silent : designates o e = none := by
          unfold designates
          split
          · rename_i payer call
            exact absurd call (noDesignation payer)
          · rfl
        rw [latest_snoc, silent, designated]
        exact recorded.designated o
      · have silent : sets o e = none := by
          unfold sets
          split
          · rename_i owner call
            exact absurd call (noConfirmation owner)
          · rename_i owner call
            exact absurd call (noRevocation owner)
          · rfl
        rw [latest_snoc, silent, standing]
        exact recorded.standing o
  · rw [(failed succeeded).1] at trace
    rw [trace.nil_eq]
    refine ⟨fun o => ?_, fun o => ?_⟩
    · rw [latest_snoc, designates_succeeded step succeeded]
      exact recorded.designated o
    · rw [latest_snoc, sets_failed succeeded]
      exact recorded.standing o

theorem run_recorded (deployed : Deployed d w₀) (run : Run d outside w₀ es w) :
    Recorded es w.store := by
  refine run.history (fun es w => Recorded es w.store) ?_ fun _ _ _ _ _ step held => held.step step
  rw [deployed.store]
  exact ⟨fun _ => rfl, fun _ => rfl⟩

/-- `p` confirmed `o` while it was `o`'s latest designation, and since then nobody
confirmed or revoked `o`. -/
def Consent (es : List (Entry T P)) (o p : Address) : Prop :=
  ∃ a c b, es = a ++ c :: b ∧ c.call = .confirmAuth o ∧ c.msg.sender = p ∧ c.Succeeded ∧
    latest (designates o) a = some p ∧
    ∀ x ∈ b, x.Succeeded → x.call ≠ .revoke o ∧ x.call ≠ .confirmAuth o

/-- The payer an account stands for has consented. -/
theorem run_consent (deployed : Deployed d w₀) (run : Run d outside w₀ es w) {o p : Address}
    (stands : standing (w.store.accounts o) = some p) : Consent es o p := by
  rw [(run_recorded deployed run).standing] at stands
  have found : latest (sets o) es = some (some p) := by
    cases same : latest (sets o) es with
    | none => simp [same] at stands
    | some v => simpa [same] using stands
  obtain ⟨a, c, b, rfl, confirmed, quiet⟩ := latest_eq_some.mp found
  obtain ⟨call, sender, succeeded⟩ : c.call = .confirmAuth o ∧ c.msg.sender = p ∧ c.Succeeded := by
    unfold sets at confirmed
    split at confirmed
    · rename_i owner call
      split at confirmed
      · rename_i both
        exact ⟨by rw [call, both.1], Option.some.inj (Option.some.inj confirmed), both.2⟩
      · cases confirmed
    · split at confirmed
      · cases Option.some.inj confirmed
      · cases confirmed
    · cases confirmed
  refine ⟨a, c, b, rfl, call, sender, succeeded, ?_, fun x member ok => ⟨fun revokes => ?_,
    fun confirms => ?_⟩⟩
  · obtain ⟨u, v, before, step, _⟩ := run.at_label
    obtain ⟨value, left, same⟩ := Entry.succeeded_iff.mp succeeded
    have ran := step.executed.symm.trans same
    rw [call] at ran
    obtain ⟨_, confirms, _⟩ := map_success ran
    have named : c.before.store.designated o = c.msg.sender := by
      unfold confirmAuth at confirms
      split at confirms
      · cases confirms
      · rename_i named
        exact not_not.mp named
    rw [step.idle.store, (run_recorded deployed before).designated, sender] at named
    cases designation : latest (designates o) a with
    | none =>
      rw [designation, Option.getD_none] at named
      exact absurd (sender.trans named.symm) step.external.notZero
    | some q => rw [← named, designation, Option.getD_some]
  · have noted := quiet x member
    simp [sets, revokes, ok] at noted
  · have noted := quiet x member
    simp [sets, confirms, ok] at noted

/-! ## Charges need consent -/

/-- The call acts for `o`: `o` sent it, or it triggered an Active volume of `o`. -/
def ActsFor (d : Deployment T P) (e : Entry T P) (o : Address) : Prop :=
  match e.call with
  | .createVolume .. | .importVolume .. => e.msg.sender = o
  | .trigger _ | .triggerMany _ => ∃ step ∈ e.call.steps d e.msg e.before,
      (step.before.store.volumes step.volumeId).status = .active ∧
      (step.before.store.volumes step.volumeId).owner = o
  | _ => False

/-- The call succeeded and charged `p` for a volume of `o`. -/
def MovesFor (d : Deployment T P) (e : Entry T P) (o p : Address) : Prop :=
  e.Succeeded ∧ ∃ c ∈ e.call.charges d e.msg e.before, c.owner = o ∧ c.payer = p

/-- A step that charges found an Active volume and a standing payer. -/
theorem step_charge {call : Call} {msg : Msg} {step : TriggerStep T P} {c : Charge}
    (member : step ∈ call.steps d msg w) (charged : step.charge d = some c) :
    (step.before.store.volumes step.volumeId).status = .active ∧
    (step.before.store.volumes step.volumeId).owner = c.owner ∧
    standing (w.store.accounts c.owner) = some c.payer := by
  obtain ⟨⟨events, trace, volume⟩, ran⟩ := steps_effects member
  simp only [TriggerStep.charge] at charged
  split at charged
  · rename_i toppedUp
    cases charged
    rw [toppedUp] at ran
    have same := (trace_standing volume (Effect.trace_store trace).1).2
    obtain ⟨outpayment, due, auth⟩ := toppedUp_due ran
    exact ⟨due.active, rfl, (same _).symm.trans (standing_eq_some.mpr ⟨auth, rfl⟩)⟩
  · cases charged

theorem charge_source {e : Entry T P} {c : Charge} (step : CallStep d outside w e w')
    (succeeded : e.Succeeded) (member : c ∈ e.call.charges d e.msg e.before) :
    ActsFor d e c.owner ∧ standing (w.store.accounts c.owner) = some c.payer := by
  obtain ⟨value, left, same⟩ := Entry.succeeded_iff.mp succeeded
  have ran := step.executed.symm.trans same
  rw [← step.idle.store]
  have triggered : c ∈ (e.call.steps d e.msg e.before).filterMap (TriggerStep.charge d) →
      (∃ s ∈ e.call.steps d e.msg e.before,
        (s.before.store.volumes s.volumeId).status = .active ∧
        (s.before.store.volumes s.volumeId).owner = c.owner) ∧
      standing (e.before.store.accounts c.owner) = some c.payer := by
    intro listed
    obtain ⟨s, inside, charged⟩ := List.mem_filterMap.mp listed
    obtain ⟨active, owner, stands⟩ := step_charge inside charged
    exact ⟨⟨s, inside, active, owner⟩, stands⟩
  unfold ActsFor
  cases call : e.call with
  | createVolume chunkSigner depth bucketDepth ttlExpiry immutableBatch =>
    rw [call] at ran member
    obtain ⟨⟨id, made⟩, created, _⟩ := map_success ran
    rw [List.mem_singleton.mp member]
    obtain ⟨batchId, effect⟩ := createVolume_effect created
    cases effect with
    | created auth => exact ⟨rfl, standing_eq_some.mpr ⟨auth, rfl⟩⟩
  | importVolume batchId ttlExpiry =>
    rw [call] at triggered member
    obtain ⟨⟨s, inside, active, owner⟩, stands⟩ := triggered member
    refine ⟨?_, stands⟩
    have effect := (registerBatch_effect (import_step inside)).store.1
    generalize s.before.store = store at effect owner
    cases effect with
    | admitted timestamp nextNonce announced sender auth named unused =>
      cases announced
      rw [Storage.enter_volumes, if_pos rfl] at owner
      exact owner
  | trigger id =>
    rw [call] at triggered member
    exact triggered member
  | triggerMany ids =>
    rw [call] at triggered member
    exact triggered member
  | _ =>
    rw [call] at member
    simp [Call.charges, Call.steps] at member

/-- A revocation ends a consent until the payer confirms again. -/
theorem Consent.not_revoked {o p : Address} {a b : List (Entry T P)} {r : Entry T P}
    (consent : Consent (a ++ r :: b) o p) (revoked : r.call = .revoke o) (succeeded : r.Succeeded) :
    ∃ x ∈ b, x.Succeeded ∧ x.call = .confirmAuth o ∧ x.msg.sender = p := by
  obtain ⟨a', c, b', same, confirms, sender, ok, _, quiet⟩ := consent
  rcases List.append_eq_append_iff.mp same with ⟨k, _, rest⟩ | ⟨k, _, rest⟩
  · cases k with
    | nil =>
      obtain ⟨rfl, _⟩ := List.cons.inj rest
      rw [revoked] at confirms
      cases confirms
    | cons x k =>
      obtain ⟨_, later⟩ := List.cons.inj rest
      exact ⟨c, by simp [later], ok, confirms, sender⟩
  · cases k with
    | nil =>
      obtain ⟨rfl, _⟩ := List.cons.inj rest
      rw [revoked] at confirms
      cases confirms
    | cons x k =>
      obtain ⟨_, later⟩ := List.cons.inj rest
      exact absurd revoked (quiet r (by simp [later]) succeeded).1

/-- Payer consent over whole runs. A call that lowers an address's balance acts for
an owner that charged this address; a charge for an owner goes back to a
confirmation by the charged address, made while it was the owner's latest
designation, with no confirmation or revocation of that owner since; so after a
revocation nothing is charged for that owner until the address confirms again. -/
theorem payer_consent (documented : d.Documented) (deployed : Deployed d w₀)
    (run : Run d outside w₀ es w) {pre post : List (Entry T P)} {e : Entry T P}
    (place : es = pre ++ e :: post) (p : Address) :
    (d.token.balanceOf e.after.bzz p < d.token.balanceOf e.before.bzz p →
      ∃ o, MovesFor d e o p ∧ ActsFor d e o ∧ Consent pre o p) ∧
    (∀ o, MovesFor d e o p → ActsFor d e o ∧ Consent pre o p) ∧
    (∀ o a r b, pre = a ++ r :: b → r.call = .revoke o → r.Succeeded →
      (∀ x ∈ b, x.Succeeded → x.call = .confirmAuth o → x.msg.sender ≠ p) →
      ¬ MovesFor d e o p) := by
  subst place
  obtain ⟨u, v, before, step, _⟩ := run.at_label
  have consents : ∀ o, MovesFor d e o p → ActsFor d e o ∧ Consent pre o p := by
    rintro o ⟨succeeded, c, member, rfl, rfl⟩
    obtain ⟨acts, stands⟩ := charge_source step succeeded member
    exact ⟨acts, run_consent deployed before stands⟩
  refine ⟨fun lowered => ?_, consents, fun o a r b same revoked succeeded never moves => ?_⟩
  · have succeeded : e.Succeeded := by
      by_contra failed
      cases same : e.result with
      | error r =>
        rw [Entry.after_of_error same] at lowered
        exact absurd lowered (Nat.lt_irrefl _)
      | ok pair => exact failed (Entry.succeeded_iff.mpr ⟨pair.1, pair.2, same⟩)
    obtain ⟨value, left, same⟩ := Entry.succeeded_iff.mp succeeded
    rw [Entry.after_of_ok same] at lowered
    have payers : ExternalPayers d e.before.store := by
      rw [step.idle.store]
      exact run_payers deployed before
    have settled := ChargeCorrectness.execute_settled documented payers step.external
      (step.executed.symm.trans same)
    have notRegistry : p ≠ d.address := by
      rintro rfl
      exact absurd settled.registry (Nat.ne_of_lt lowered)
    have notPostage : p ≠ d.postage := by
      rintro rfl
      have grown := settled.postage
      omega
    have charged : 0 < taken p (e.call.charges d e.msg e.before) := by
      have exactly := settled.payers p notRegistry notPostage
      omega
    suffices moves : ∃ o, MovesFor d e o p by
      obtain ⟨o, moves⟩ := moves
      exact ⟨o, moves, consents o moves⟩
    by_contra none
    have empty : (e.call.charges d e.msg e.before).filter (fun c => c.payer = p) = [] := by
      rw [List.filter_eq_nil_iff]
      intro c member payer
      exact none ⟨c.owner, succeeded, c, member, rfl, of_decide_eq_true payer⟩
    rw [taken, empty] at charged
    exact absurd charged (Nat.lt_irrefl 0)
  · have consent := (consents o moves).2
    rw [same] at consent
    obtain ⟨x, member, ok, confirms, sender⟩ := consent.not_revoked revoked succeeded
    exact never x member ok confirms sender

theorem payer_consent_sample : ∃ o, MovesFor Sample.deployment Sample.imported o Sample.payer ∧
    ActsFor Sample.deployment Sample.imported o ∧
    Consent (Sample.entries.take 3) o Sample.payer :=
  (payer_consent Sample.documented Sample.deployed (Sample.run anything_refl)
    Sample.entries_split Sample.payer).1 (by decide)

end SwarmVolumes.Guarantees.PayerConsent
