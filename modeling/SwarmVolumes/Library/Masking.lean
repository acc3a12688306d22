import Mathlib.Data.List.Infix

/-!
# Masking texts

Occurrences of a string are masked from the left and without overlaps (`Masks`), and
several strings in passes, each over what the last one left (`Passes`). Masking a string
does not by itself keep it out of the result: its own mask, or that of a later pass, may
spell it together with the text around it (`Completes`). A string whose masks complete
it nowhere new stays out (`Guarded.absent`); one that no pass looks for stays in
(`Passes.unchanged`), and so does one that a pass completes in a text the others leave
alone (`Passes.completed`).
-/
namespace Library.Masking

variable {α : Type*} {src dst secret mask text result : List α}

/-- The occurrences of `src` become `dst`. -/
inductive Masks (src dst : List α) : List α → List α → Prop where
  | clean {text : List α} (absent : ¬ src <:+: text) : Masks src dst text text
  | found {before rest masked : List α} (first : ¬ src <:+: (before ++ src).dropLast)
      (tail : Masks src dst rest masked) :
      Masks src dst (before ++ (src ++ rest)) (before ++ (dst ++ masked))

/-- One pass for each string with its mask. -/
inductive Passes : List (List α × List α) → List α → List α → Prop where
  | done {text : List α} : Passes [] text text
  | pass {pair : List α × List α} {pairs : List (List α × List α)} {text masked result : List α}
      (masks : Masks pair.1 pair.2 text masked) (passes : Passes pairs masked result) :
      Passes (pair :: pairs) text result

/-- The mask spells the secret between `x` and `z`, touching both where they are not empty. -/
def Completes (secret mask x z : List α) : Prop :=
  ∃ part, secret = x ++ (part ++ z) ∧
    (part = mask ∨ (z = [] ∧ part <+: mask) ∨ (x = [] ∧ part <:+ mask) ∨
      (x = [] ∧ z = [] ∧ part <:+: mask))

theorem Completes.infix {x z : List α} (completes : Completes secret mask x z) :
    secret <:+: x ++ (mask ++ z) := by
  obtain ⟨part, rfl, same | ⟨rfl, start⟩ | ⟨rfl, finish⟩ | ⟨rfl, rfl, inside⟩⟩ := completes
  · rw [same]
  · obtain ⟨more, rfl⟩ := start
    exact ⟨[], more, by simp⟩
  · obtain ⟨more, rfl⟩ := finish
    exact ⟨more, [], by simp⟩
  · simpa using inside

/-- Where a secret can be in a text with a mask: off the mask, or completed by it. -/
theorem completes_of_infix {a b : List α} (spelled : secret <:+: a ++ (mask ++ b)) :
    secret <:+: a ∨ secret <:+: b ∨ ∃ x z, Completes secret mask x z ∧ x <:+ a ∧ z <+: b := by
  rcases List.infix_append_iff.mp spelled with left | right | ⟨x, rest, rfl, left, right⟩
  · exact .inl left
  · rcases List.infix_append_iff.mp right with inside | outside | ⟨part, z, rfl, finish, out⟩
    · refine .inr (.inr ⟨[], [], ⟨secret, by simp, ?_⟩, List.nil_suffix, List.nil_prefix⟩)
      exact .inr (.inr (.inr ⟨rfl, rfl, inside⟩))
    · exact .inr (.inl outside)
    · refine .inr (.inr ⟨[], z, ⟨part, by simp, ?_⟩, List.nil_suffix, out⟩)
      exact .inr (.inr (.inl ⟨rfl, finish⟩))
  · rcases List.prefix_or_prefix_of_prefix right (List.prefix_append mask b) with short | long
    · refine .inr (.inr ⟨x, [], ⟨rest, by simp, ?_⟩, left, List.nil_prefix⟩)
      exact .inr (.inl ⟨rfl, short⟩)
    · obtain ⟨z, rfl⟩ := long
      have out : z <+: b := (List.prefix_append_right_inj mask).mp right
      exact .inr (.inr ⟨x, z, ⟨mask, rfl, .inl rfl⟩, left, out⟩)

/-- A secret's own mask completes it only after an occurrence of it that comes first. -/
def OwnMask (secret mask : List α) : Prop :=
  ∀ x z, Completes secret mask x z → secret <:+: (x ++ secret).dropLast ∨ secret <:+: z

/-- The mask of another string completes the secret only where that string did. -/
def LaterMask (secret src dst : List α) : Prop :=
  ∀ x z, Completes secret dst x z → secret <:+: x ++ (src ++ z)

theorem infix_first (nonempty : secret ≠ []) {x before : List α} (inside : x <:+: before) :
    x <:+: (before ++ secret).dropLast := by
  rw [List.dropLast_append_of_ne_nil nonempty]
  exact inside.trans (List.prefix_append _ _).isInfix

theorem Masks.absent (nonempty : secret ≠ []) (own : OwnMask secret mask)
    (masks : Masks secret mask text result) : ¬ secret <:+: result := by
  induction masks with
  | clean absent => exact absent
  | @found before rest masked first tail ih =>
    intro spelled
    rcases completes_of_infix spelled with left | right | ⟨x, z, completes, left, right⟩
    · exact first (infix_first nonempty left)
    · exact ih right
    · rcases own x z completes with earlier | later
      · refine first (earlier.trans ?_)
        rw [List.dropLast_append_of_ne_nil nonempty, List.dropLast_append_of_ne_nil nonempty]
        obtain ⟨more, rfl⟩ := left
        exact ⟨more, [], by simp⟩
      · exact ih (later.trans right.isInfix)

theorem Masks.infix_of_infix {src dst : List α} (later : LaterMask secret src dst)
    (masks : Masks src dst text result) (a : List α) (spelled : secret <:+: a ++ result) :
    secret <:+: a ++ text := by
  induction masks generalizing a with
  | clean => exact spelled
  | @found before rest masked first tail ih =>
    rw [← List.append_assoc] at spelled ⊢
    rcases completes_of_infix spelled with left | right | ⟨x, z, completes, left, right⟩
    · exact left.trans (List.prefix_append _ _).isInfix
    · exact (ih [] right).trans ⟨a ++ before ++ src, [], by simp⟩
    · have around : secret <:+: (a ++ before ++ src) ++ masked := by
        obtain ⟨more, same⟩ := left
        obtain ⟨more', rfl⟩ := right
        refine (later x z completes).trans ⟨more, more', ?_⟩
        rw [← same]
        simp
      simpa using ih (a ++ before ++ src) around

/-- Some string a secret contains is looked for, and no mask from its own on completes it. -/
def Guarded (pairs : List (List α × List α)) (secret : List α) : Prop :=
  ∃ before armed mask after, pairs = before ++ (armed, mask) :: after ∧
    armed ≠ [] ∧ armed <:+: secret ∧ OwnMask armed mask ∧
    ∀ pair ∈ after, LaterMask armed pair.1 pair.2

theorem Passes.infix_of_infix {pairs : List (List α × List α)}
    (later : ∀ pair ∈ pairs, LaterMask secret pair.1 pair.2)
    (passes : Passes pairs text result) (spelled : secret <:+: result) : secret <:+: text := by
  induction passes with
  | done => exact spelled
  | pass masks passes ih =>
    have before := ih (fun pair member => later pair (List.mem_cons_of_mem _ member)) spelled
    exact masks.infix_of_infix (later _ (List.mem_cons_self ..)) [] before

theorem Passes.split {before after : List (List α × List α)} {pair : List α × List α}
    (passes : Passes (before ++ pair :: after) text result) :
    ∃ reached masked, Passes before text reached ∧ Masks pair.1 pair.2 reached masked ∧
      Passes after masked result := by
  induction before generalizing text with
  | nil =>
    cases passes with
    | pass masks passes => exact ⟨text, _, .done, masks, passes⟩
  | cons first before ih =>
    cases passes with
    | pass masks passes =>
      obtain ⟨reached, masked, early, middle, late⟩ := ih passes
      exact ⟨reached, masked, .pass masks early, middle, late⟩

theorem Guarded.absent {pairs : List (List α × List α)} (guarded : Guarded pairs secret)
    (passes : Passes pairs text result) : ¬ secret <:+: result := by
  obtain ⟨before, armed, mask, after, rfl, nonempty, part, own, later⟩ := guarded
  obtain ⟨reached, masked, -, masks, passes⟩ := passes.split
  intro spelled
  exact masks.absent nonempty own (passes.infix_of_infix later (part.trans spelled))

/-! ## What stays in -/

theorem Masks.unchanged (absent : ¬ src <:+: text) (masks : Masks src dst text result) :
    result = text := by
  cases masks with
  | clean => rfl
  | @found before rest masked => exact absurd ⟨before, rest, by simp⟩ absent

theorem Passes.unchanged {pairs : List (List α × List α)}
    (absent : ∀ pair ∈ pairs, ¬ pair.1 <:+: text) (passes : Passes pairs text result) :
    result = text := by
  induction passes with
  | done => rfl
  | pass masks passes ih =>
    have same := masks.unchanged (absent _ (List.mem_cons_self ..))
    subst same
    exact ih fun pair member => absent pair (List.mem_cons_of_mem _ member)

theorem not_earlier {x z before rest : List α} (first : ¬ src <:+: (x ++ src).dropLast)
    (same : before ++ (src ++ rest) = x ++ (src ++ z)) : x.length ≤ before.length := by
  by_contra earlier
  have fits : (before ++ src).length ≤ (x ++ src).dropLast.length := by
    rw [List.length_dropLast, List.length_append, List.length_append]
    omega
  have start : before ++ src <+: x ++ (src ++ z) := ⟨rest, by rw [List.append_assoc, same]⟩
  have within : (x ++ src).dropLast <+: x ++ (src ++ z) :=
    (List.dropLast_prefix _).trans ⟨z, by rw [List.append_assoc]⟩
  have inside : before ++ src <+: (x ++ src).dropLast :=
    List.prefix_of_prefix_length_le start within fits
  exact first ((List.suffix_append before src).isInfix.trans inside.isInfix)

theorem Masks.found_once {x z : List α} (first : ¬ src <:+: (x ++ src).dropLast)
    (absent : ¬ src <:+: z) (masks : Masks src dst (x ++ (src ++ z)) result) :
    result = x ++ (dst ++ z) := by
  generalize whole : x ++ (src ++ z) = text at masks
  cases masks with
  | clean clear => exact absurd ⟨x, z, by rw [← whole, List.append_assoc]⟩ clear
  | @found before rest masked first' tail =>
    have length : before.length = x.length :=
      Nat.le_antisymm (not_earlier first' whole) (not_earlier first whole.symm)
    obtain ⟨rfl, rest_eq⟩ := List.append_inj whole length.symm
    rw [List.append_cancel_left rest_eq] at absent
    rw [tail.unchanged absent, List.append_cancel_left rest_eq]

/-- A mask that completes a secret where nothing else is looked for. -/
theorem Passes.completed {before after : List (List α × List α)} {x z : List α}
    (completes : Completes secret dst x z) (first : ¬ src <:+: (x ++ src).dropLast)
    (absent : ¬ src <:+: z) (earlier : ∀ pair ∈ before, ¬ pair.1 <:+: x ++ (src ++ z))
    (later : ∀ pair ∈ after, ¬ pair.1 <:+: x ++ (dst ++ z))
    (passes : Passes (before ++ (src, dst) :: after) (x ++ (src ++ z)) result) :
    secret <:+: result := by
  obtain ⟨reached, masked, early, masks, late⟩ := passes.split
  rw [early.unchanged earlier] at masks
  have replaced := masks.found_once first absent
  subst replaced
  rw [late.unchanged later]
  exact completes.infix

/-! ## Deciding -/

/-- The ways to cut a secret so that the mask completes it are finitely many. -/
theorem forall_completes_iff (secret mask : List α) (P : List α → List α → Prop) :
    (∀ x z, Completes secret mask x z → P x z) ↔
      (∀ i ∈ List.range (secret.length + 1),
        (mask <+: secret.drop i → P (secret.take i) (secret.drop (i + mask.length))) ∧
        (secret.drop i <+: mask → P (secret.take i) []) ∧
        (secret.take i <:+ mask → P [] (secret.drop i))) ∧
      (secret <:+: mask → P [] []) := by
  constructor
  · intro all
    refine ⟨fun i _ => ⟨?_, ?_, ?_⟩, ?_⟩
    · rintro ⟨z, same⟩
      have tail : z = secret.drop (i + mask.length) := by
        rw [← List.drop_drop, ← same, List.drop_left]
      refine all _ _ ⟨mask, ?_, .inl rfl⟩
      rw [← tail, same, List.take_append_drop]
    · intro start
      exact all _ _ ⟨secret.drop i, by simp, .inr (.inl ⟨rfl, start⟩)⟩
    · intro finish
      exact all _ _ ⟨secret.take i, by simp, .inr (.inr (.inl ⟨rfl, finish⟩))⟩
    · intro inside
      exact all _ _ ⟨secret, by simp, .inr (.inr (.inr ⟨rfl, rfl, inside⟩))⟩
  · rintro ⟨cuts, whole⟩ x z ⟨part, rfl, same | ⟨rfl, start⟩ | ⟨rfl, finish⟩ | ⟨rfl, rfl, inside⟩⟩
    · subst same
      have range : x.length ∈ List.range ((x ++ (part ++ z)).length + 1) := by
        rw [List.mem_range, List.length_append]
        omega
      have cut := (cuts x.length range).1
      rw [List.drop_left, List.take_left, ← List.drop_drop, List.drop_left, List.drop_left] at cut
      exact cut (List.prefix_append _ _)
    · have range : x.length ∈ List.range ((x ++ (part ++ [])).length + 1) := by
        rw [List.mem_range, List.length_append]
        omega
      have cut := (cuts x.length range).2.1
      rw [List.drop_left, List.take_left, List.append_nil] at cut
      exact cut start
    · have range : part.length ∈ List.range (([] ++ (part ++ z)).length + 1) := by
        rw [List.mem_range, List.nil_append, List.length_append]
        omega
      have cut := (cuts part.length range).2.2
      rw [List.nil_append, List.drop_left, List.take_left] at cut
      exact cut finish
    · simpa using whole (by simpa using inside)

section Decide
variable [DecidableEq α]

instance (secret mask : List α) : Decidable (OwnMask secret mask) :=
  decidable_of_iff _ (forall_completes_iff secret mask _).symm

instance (secret src dst : List α) : Decidable (LaterMask secret src dst) :=
  decidable_of_iff _ (forall_completes_iff secret dst _).symm

/-- A mask that ends as the other string starts completes it. -/
example : ¬ LaterMask [1, 2, 3] [0, 1, 0] [0, 1] := by decide

end Decide

end Library.Masking
