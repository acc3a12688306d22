import SwarmVolumes.Guarantees.ActiveSet
import SwarmVolumes.Source.Registry.Views

/-!
# Paging

`getActiveVolumes` adds `offset` and `limit` with overflow checks before it
clamps the sum to the end of the list, so a page that starts inside the list
reverts exactly when its unclamped end is no `uint256`. The pages of one size
never do: a registry lists fewer than 2^225 IDs, one for each owner and nonce.
-/
namespace SwarmVolumes.Guarantees.Paging
open Library Source ActiveSet

variable {T P : Type} {d : Deployment T P} {outside : World T P → World T P → Prop}
variable {w₀ w : World T P} {es : List (Entry T P)} {s : Storage} {offset limit count : Nat}

/-- The views of the positions `offset ≤ i < min (offset + limit) n` of the active
list, in order, and nothing else. -/
def Page (s : Storage) (offset limit : Nat) (answer : Except Revert (List VolumeView)) : Prop :=
  ∃ views, answer = .ok views ∧ ∀ j, views[j]? =
    if offset + j < min (offset + limit) s.activeVolumeIds.length then
      s.activeVolumeIds[offset + j]?.map (getVolume s)
    else none

theorem page_slice : Page s offset limit
    (.ok ((slice s.activeVolumeIds offset limit).map (getVolume s))) := by
  refine ⟨_, rfl, fun j => ?_⟩
  rw [List.getElem?_map, slice, List.getElem?_take, List.getElem?_drop]
  by_cases inside : offset + j < s.activeVolumeIds.length
  · by_cases counted : j < limit
    · rw [if_pos counted, if_pos (by omega)]
    · rw [if_neg counted, if_neg (by omega)]
      rfl
  · have past : ¬ offset + j < min (offset + limit) s.activeVolumeIds.length := by omega
    rw [List.getElem?_eq_none (Nat.not_lt.mp inside), if_neg past]
    split
    · rfl
    · rfl

theorem getActiveVolumes_past (past : s.activeVolumeIds.length ≤ offset) :
    getActiveVolumes s offset limit =
      .ok ((slice s.activeVolumeIds offset limit).map (getVolume s)) := by
  rw [slice, List.drop_eq_nil_of_le past, List.take_nil, List.map_nil]
  exact if_pos past

theorem getActiveVolumes_overflow (inside : offset < s.activeVolumeIds.length)
    (wide : Word.modulus ≤ offset + limit) :
    getActiveVolumes s offset limit = .error .overflow := by
  have sum : Word.add? offset limit = none := if_neg (Nat.not_lt.mpr wide)
  unfold getActiveVolumes
  dsimp only
  rw [if_neg (Nat.not_le.mpr inside), sum]
  rfl

theorem page_iff : Page s offset limit (getActiveVolumes s offset limit) ↔
    s.activeVolumeIds.length ≤ offset ∨ offset + limit < 2 ^ 256 := by
  constructor
  · rintro ⟨views, ok, _⟩
    by_contra both
    rw [not_or, Nat.not_le, Nat.not_lt] at both
    rw [getActiveVolumes_overflow both.1 both.2] at ok
    cases ok
  · rintro (past | small)
    · rw [getActiveVolumes_past past]
      exact page_slice
    · rw [getActiveVolumes_slice small]
      exact page_slice

/-! ## How long the list can get -/

/-- Every listed ID was handed out once, for an owner and a nonce. -/
structure Issued (d : Deployment T P) (s : Storage) : Prop where
  nodup : s.activeVolumeIds.Nodup
  known : ∀ id ∈ s.activeVolumeIds, (s.volumes id).status ≠ .none
  named : ∀ id ∈ s.activeVolumeIds, ∃ o n, id = d.volumeId o n

theorem Issued.enter (issued : Issued d s) {a : Admission} (timestamp : Nat) {o : Address}
    {n : UInt64} (named : a.volumeId = d.volumeId o n)
    (unused : (s.volumes a.volumeId).status = .none) : Issued d (s.enter a timestamp) := by
  refine ⟨?_, fun id listed => ?_, fun id listed => ?_⟩
  · rw [Storage.enter_ids, List.nodup_append]
    refine ⟨issued.nodup, List.nodup_singleton _, fun id listed other new same => ?_⟩
    rw [List.mem_singleton.mp new] at same
    exact issued.known id listed (same ▸ unused)
  · rw [Storage.enter_volumes]
    split
    · nofun
    · rename_i different
      rw [Storage.enter_ids, List.mem_append, List.mem_singleton] at listed
      exact issued.known id (listed.resolve_right different)
  · rw [Storage.enter_ids, List.mem_append, List.mem_singleton] at listed
    rcases listed with old | rfl
    · exact issued.named id old
    · exact ⟨o, n, named⟩

theorem Issued.step {s' : Storage} {sender : Address} {e : Event} (issued : Issued d s)
    (step : StoreStep d sender s e s') : Issued d s' := by
  cases step with
  | designated payer => exact ⟨issued.nodup, issued.known, issued.named⟩
  | activated owner named => exact ⟨issued.nodup, issued.known, issued.named⟩
  | revoked owner allowed => exact ⟨issued.nodup, issued.known, issued.named⟩
  | admitted timestamp nextNonce announced owner auth named unused =>
    exact Issued.enter (s := { s with nextNonce }) ⟨issued.nodup, issued.known, issued.named⟩ _
      named unused
  | retired isActive retired =>
    obtain ⟨_, lastId, atEnd, ids⟩ := retire_ids retired
    obtain ⟨_, _, records, kept⟩ := Storage.retire_frame retired
    refine ⟨?_, fun id listed => ?_, fun id listed => issued.named id (kept listed)⟩
    · rw [ids]
      exact nodup_swapPop issued.nodup atEnd
    · rw [(records id).2]
      split
      · nofun
      · exact issued.known id (kept listed)
  | toppedUp isActive => exact issued
  | skipped guarded => exact issued

theorem run_issued (deployed : Deployed d w₀) (run : Run d outside w₀ es w) :
    Issued d w.store := by
  refine Trace.invariant (fun w : World T P => Issued d w.store) ?_ ?_ run
  · rw [deployed.store]
    exact ⟨List.nodup_nil, nofun, nofun⟩
  · intro w e w' step issued
    obtain ⟨events, trace, _⟩ := step.store
    exact trace.invariant (Issued d) issued fun t e t' taken held => held.step taken

/-- Distinct values of a function are no more than its arguments. -/
theorem length_le_arguments {α : Type*} {n m : Nat} {f : Fin n × Fin m → α} {l : List α}
    (nodup : l.Nodup) (values : ∀ a ∈ l, ∃ p, f p = a) : l.length ≤ n * m := by
  classical
  have inside : l.toFinset ⊆ Finset.univ.image f := by
    intro a listed
    obtain ⟨p, rfl⟩ := values a (List.mem_toFinset.mp listed)
    exact Finset.mem_image_of_mem f (Finset.mem_univ p)
  calc l.length
      = l.toFinset.card := (List.toFinset_card_of_nodup nodup).symm
    _ ≤ (Finset.univ.image f).card := Finset.card_le_card inside
    _ ≤ (Finset.univ : Finset (Fin n × Fin m)).card := Finset.card_image_le
    _ = n * m := by rw [Finset.card_univ, Fintype.card_prod, Fintype.card_fin, Fintype.card_fin]

theorem Issued.length_lt (issued : Issued d s) : s.activeVolumeIds.length < 2 ^ 225 := by
  have fits : s.activeVolumeIds.length ≤ 2 ^ 160 * 2 ^ 64 := by
    apply length_le_arguments (f := fun p => d.volumeId (BitVec.ofFin p.1) ⟨BitVec.ofFin p.2⟩)
      issued.nodup
    intro id listed
    obtain ⟨o, n, rfl⟩ := issued.named id listed
    exact ⟨(o.toFin, n.toBitVec.toFin), rfl⟩
  omega

/-- A page at a multiple of its size ends inside a `uint256` or starts past the end. -/
theorem aligned_page (short : s.activeVolumeIds.length < 2 ^ 225) (word : limit < 2 ^ 256)
    (i : Nat) : getActiveVolumes s (i * limit) limit =
      .ok ((slice s.activeVolumeIds (i * limit) limit).map (getVolume s)) := by
  by_cases past : s.activeVolumeIds.length ≤ i * limit
  · exact getActiveVolumes_past past
  · apply getActiveVolumes_slice
    change i * limit + limit < 2 ^ 256
    cases i with
    | zero => omega
    | succ i =>
      rw [Nat.succ_mul] at past ⊢
      omega

/-- In every state a registry reaches, a page is the slice of the active list it
names exactly when it starts past the end or `offset + limit` is a `uint256`; and
the pages at 0, `limit`, 2 · `limit`, …, as many as cover the list, put together
are the whole list. -/
theorem paging_exact (deployed : Deployed d w₀) (run : Run d outside w₀ es w) :
    (∀ offset limit, offset < 2 ^ 256 → limit < 2 ^ 256 →
      (Page w.store offset limit (getActiveVolumes w.store offset limit) ↔
        getActiveVolumeCount w.store ≤ offset ∨ offset + limit < 2 ^ 256)) ∧
    ∀ limit count, 1 ≤ limit → limit < 2 ^ 256 → getActiveVolumeCount w.store ≤ count * limit →
      ∃ pages, (List.range count).mapM (fun i => getActiveVolumes w.store (i * limit) limit) =
          .ok pages ∧
        pages.flatten = w.store.activeVolumeIds.map (getVolume w.store) := by
  refine ⟨fun offset limit _ _ => page_iff, fun limit count _ word covered => ?_⟩
  have short := (run_issued deployed run).length_lt
  refine ⟨_, mapM_ok fun i _ => aligned_page short word i, ?_⟩
  have whole := slices_flatten (w.store.activeVolumeIds.map (getVolume w.store)) limit count
  simp only [slice, ← List.map_drop, ← List.map_take] at whole ⊢
  rw [whole, List.take_of_length_le covered]

/-- The registry of the sample while both its volumes are Active. -/
def both : World Reference.Ledger Reference.Office :=
  (play Sample.deployment Sample.genesis (Sample.calls.take 5)).2

theorem both_run : Run Sample.deployment anything Sample.genesis
    (play Sample.deployment Sample.genesis (Sample.calls.take 5)).1 both :=
  play_run anything_refl (by decide)

theorem paging_exact_sample : Page both.store 1 7 (getActiveVolumes both.store 1 7) := by
  apply ((paging_exact Sample.deployed both_run).1 1 7 (by decide) (by decide)).mpr
  exact .inr (by decide)

/-- With two Active volumes, everything from the second on cannot be asked for
with the largest `limit`. -/
theorem page_reverts :
    Run Sample.deployment anything Sample.genesis
      (play Sample.deployment Sample.genesis (Sample.calls.take 5)).1 both ∧
    getActiveVolumeCount both.store = 2 ∧
    getActiveVolumes both.store 1 (2 ^ 256 - 1) = .error .overflow ∧
    ¬ Page both.store 1 (2 ^ 256 - 1) (getActiveVolumes both.store 1 (2 ^ 256 - 1)) := by
  have two : getActiveVolumeCount both.store = 2 := by decide
  have second : 1 < both.store.activeVolumeIds.length := by
    change 1 < getActiveVolumeCount both.store
    rw [two]
    decide
  have reverts : getActiveVolumes both.store 1 (2 ^ 256 - 1) = .error .overflow :=
    getActiveVolumes_overflow second (by decide)
  refine ⟨both_run, two, reverts, ?_⟩
  rw [reverts]
  rintro ⟨views, ok, _⟩
  cases ok

end SwarmVolumes.Guarantees.Paging
