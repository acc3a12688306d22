import Mathlib.Data.List.Forall2
import Mathlib.Tactic.Common

/-!
# Computations that may fail

Inversion of `Except` computations, and the errors a computation cannot end
with: `Avoids bad x` composes along binds and branches.
-/
namespace Library

universe u v

variable {ε : Type u} {α β : Type v} {x : Except ε α} {next : α → Except ε β} {bad : ε → Prop}

@[simp] theorem ok_bind (a : α) (next : α → Except ε β) :
    ((.ok a : Except ε α) >>= next) = next a := rfl

theorem bind_success {b : β} (ok : (x >>= next) = .ok b) : ∃ a, x = .ok a ∧ next a = .ok b := by
  cases x with
  | error e => cases ok
  | ok a => exact ⟨a, rfl, ok⟩

theorem map_success {f : α → β} {b : β} (ok : x.map f = .ok b) : ∃ a, x = .ok a ∧ f a = b := by
  cases x with
  | error e => cases ok
  | ok a => exact ⟨a, rfl, Except.ok.inj ok⟩

theorem mapError_success {ε' : Type*} {f : ε → ε'} {a : α} (ok : x.mapError f = .ok a) : x = .ok a := by
  cases x with
  | error e => cases ok
  | ok a' => rw [Except.ok.inj ok]

theorem success_of_isOk (ok : x.isOk = true) : ∃ a, x = .ok a := by
  cases x with
  | error e => cases ok
  | ok a => exact ⟨a, rfl⟩

theorem mapM_ok {γ : Type*} {f : γ → Except ε β} {g : γ → β} {cs : List γ}
    (each : ∀ c ∈ cs, f c = .ok (g c)) : cs.mapM f = .ok (cs.map g) := by
  induction cs with
  | nil => rfl
  | cons c cs ih =>
    have rest := ih fun c' member => each c' (List.mem_cons_of_mem _ member)
    rw [List.mapM_cons, each c (List.mem_cons_self ..), ok_bind, rest]
    rfl

theorem mapM_total {γ : Type*} {f : γ → Except ε β} {cs : List γ}
    (each : ∀ c ∈ cs, ∃ b, f c = .ok b) : ∃ bs, cs.mapM f = .ok bs := by
  induction cs with
  | nil => exact ⟨[], rfl⟩
  | cons c cs ih =>
    obtain ⟨b, first⟩ := each c (List.mem_cons_self ..)
    obtain ⟨bs, rest⟩ := ih fun c' member => each c' (List.mem_cons_of_mem _ member)
    exact ⟨b :: bs, by rw [List.mapM_cons, first, ok_bind, rest]; rfl⟩

theorem mapM_success {γ : Type*} {f : γ → Except ε β} {cs : List γ} {bs : List β}
    (ok : cs.mapM f = .ok bs) : ∀ c ∈ cs, ∃ b, f c = .ok b := by
  induction cs generalizing bs with
  | nil => nofun
  | cons c cs ih =>
    rw [List.mapM_cons] at ok
    obtain ⟨b, first, ok⟩ := bind_success ok
    obtain ⟨bs', rest, _⟩ := bind_success ok
    exact List.forall_mem_cons.mpr ⟨⟨b, first⟩, ih rest⟩

/-- The results of a list, one for each element. -/
theorem mapM_forall₂ {γ : Type*} {f : γ → Except ε β} {cs : List γ} {bs : List β}
    (ok : cs.mapM f = .ok bs) : List.Forall₂ (fun c b => f c = .ok b) cs bs := by
  induction cs generalizing bs with
  | nil =>
    obtain rfl : [] = bs := Except.ok.inj ok
    exact .nil
  | cons c cs ih =>
    rw [List.mapM_cons] at ok
    obtain ⟨b, first, ok⟩ := bind_success ok
    obtain ⟨bs', rest, same⟩ := bind_success ok
    obtain rfl : b :: bs' = bs := Except.ok.inj same
    exact .cons first (ih rest)

theorem mem_mapM {γ : Type*} {f : γ → Except ε β} {cs : List γ} {bs : List β} (ok : cs.mapM f = .ok bs)
    {b : β} : b ∈ bs ↔ ∃ c ∈ cs, f c = .ok b := by
  have all := mapM_forall₂ ok
  clear ok
  induction all with
  | nil => simp
  | @cons c b' cs bs first rest ih =>
    have same : f c = .ok b ↔ b = b' := by
      rw [first]
      simp [eq_comm]
    rw [List.mem_cons, List.exists_mem_cons_iff, same]
    exact or_congr_right ih

/-- What is read off the results, read off what they are the results of. -/
theorem map_of_mapM {γ δ : Type*} {f : γ → Except ε β} {g : β → δ} {h : γ → δ} {cs : List γ} {bs : List β}
    (ok : cs.mapM f = .ok bs) (agree : ∀ c ∈ cs, ∀ b, f c = .ok b → g b = h c) : bs.map g = cs.map h := by
  have all := mapM_forall₂ ok
  clear ok
  induction all with
  | nil => rfl
  | cons first rest ih =>
    rw [List.map_cons, List.map_cons, agree _ (List.mem_cons_self ..) _ first,
      ih fun c member => agree c (List.mem_cons_of_mem _ member)]

/-- A loop whose body succeeds, and keeps an invariant, succeeds and keeps it. -/
theorem foldlM_total {γ : Type*} {f : β → γ → Except ε β} (inv : β → Prop) {cs : List γ} {b : β}
    (body : ∀ b, ∀ c ∈ cs, inv b → ∃ b', f b c = .ok b' ∧ inv b') (start : inv b) :
    ∃ b', cs.foldlM f b = .ok b' ∧ inv b' := by
  induction cs generalizing b with
  | nil => exact ⟨b, rfl, start⟩
  | cons c cs ih =>
    obtain ⟨next, stepped, kept⟩ := body b c (List.mem_cons_self ..) start
    obtain ⟨last, rest, final⟩ := ih (fun b c' member => body b c' (List.mem_cons_of_mem _ member)) kept
    exact ⟨last, by rw [List.foldlM_cons, stepped, ok_bind, rest], final⟩

/-- What each turn of a loop keeps, the loop keeps. -/
theorem foldlM_keeps {γ : Type*} {f : β → γ → Except ε β} (inv : β → Prop) {cs : List γ} {b last : β}
    (body : ∀ b, ∀ c ∈ cs, inv b → ∀ b', f b c = .ok b' → inv b') (start : inv b)
    (ok : cs.foldlM f b = .ok last) : inv last := by
  induction cs generalizing b with
  | nil =>
    obtain rfl : b = last := Except.ok.inj ok
    exact start
  | cons c cs ih =>
    rw [List.foldlM_cons] at ok
    obtain ⟨next, stepped, rest⟩ := bind_success ok
    exact ih (fun b c' member => body b c' (List.mem_cons_of_mem _ member))
      (body b c (List.mem_cons_self ..) start next stepped) rest

/-- A loop does not notice turns that leave every value as it is. -/
theorem foldlM_filter {γ : Type*} {f : β → γ → Except ε β} {keep : γ → Bool}
    (idle : ∀ b c, keep c = false → f b c = .ok b) (cs : List γ) (b : β) :
    (cs.filter keep).foldlM f b = cs.foldlM f b := by
  induction cs generalizing b with
  | nil => rfl
  | cons c cs ih =>
    cases kept : keep c with
    | true =>
      rw [List.filter_cons_of_pos kept, List.foldlM_cons, List.foldlM_cons]
      exact congrArg (f b c >>= ·) (funext ih)
    | false =>
      rw [List.filter_cons_of_neg (by simp [kept]), List.foldlM_cons, idle b c kept, ok_bind, ih]

theorem mapM_congr {γ : Type*} {f g : γ → Except ε β} {cs : List γ} (same : ∀ c ∈ cs, f c = g c) :
    cs.mapM f = cs.mapM g := by
  induction cs with
  | nil => rfl
  | cons c cs ih =>
    rw [List.mapM_cons, List.mapM_cons, same c (List.mem_cons_self ..),
      ih fun c' member => same c' (List.mem_cons_of_mem _ member)]

/-- The computation may fail, but not with a bad error. -/
def Avoids (bad : ε → Prop) (x : Except ε α) : Prop := ∀ e, x = .error e → ¬ bad e

namespace Avoids

theorem ok (a : α) : Avoids bad (.ok a) := nofun

theorem error {e : ε} (harmless : ¬ bad e) : Avoids bad (.error e : Except ε α) := by
  rintro _ ⟨⟩
  exact harmless

theorem mono {worse : ε → Prop} (implied : ∀ e, worse e → bad e) (avoids : Avoids bad x) :
    Avoids worse x :=
  fun e failed isWorse => avoids e failed (implied e isWorse)

theorem bind (first : Avoids bad x) (rest : ∀ a, x = .ok a → Avoids bad (next a)) :
    Avoids bad (x >>= next) := by
  cases x with
  | error e =>
    rintro _ ⟨⟩
    exact first e rfl
  | ok a => exact rest a rfl

theorem ite {c : Prop} [Decidable c] {y : Except ε α} (yes : c → Avoids bad x)
    (no : ¬ c → Avoids bad y) : Avoids bad (if c then x else y) := by
  split
  · exact yes ‹_›
  · exact no ‹_›

theorem map {f : α → β} (first : Avoids bad x) : Avoids bad (x.map f) := by
  cases x with
  | error e =>
    rintro _ ⟨⟩
    exact first e rfl
  | ok a => exact ok _

end Avoids
end Library
