import Mathlib.Order.Interval.Set.Defs
import Mathlib.Tactic.Common
import Mathlib.Tactic.Linarith

/-!
# Tilings of an integer interval

Ranges of integers, each given by its first and its last point, that follow one
another without a gap. A function of ranges that splits over the parts of a range
has the same value on a tiling as on the whole interval.
-/
namespace Library

variable {α : Type*}

/-- The ranges follow one another from `start`; `next` is the first point after them. -/
inductive Tiles : Int → List (Int × Int) → Int → Prop
  | nil (start : Int) : Tiles start [] start
  | cons {start stop next : Int} {ranges : List (Int × Int)} (nonempty : start ≤ stop)
      (rest : Tiles (stop + 1) ranges next) : Tiles start ((start, stop) :: ranges) next

namespace Tiles

variable {start mid next : Int} {ranges first second : List (Int × Int)}

theorem le (tiles : Tiles start ranges next) : start ≤ next := by
  induction tiles with
  | nil start => exact le_refl start
  | cons nonempty rest ih => omega

theorem append (tiles : Tiles start first mid) (tiles' : Tiles mid second next) :
    Tiles start (first ++ second) next := by
  induction tiles with
  | nil start => exact tiles'
  | cons nonempty rest ih => exact cons nonempty (ih tiles')

/-- The first ranges of a tiling tile a first part of the interval. -/
theorem take (tiles : Tiles start ranges next) (count : Nat) :
    ∃ mid, Tiles start (ranges.take count) mid ∧ mid ≤ next := by
  induction tiles generalizing count with
  | nil start => exact ⟨start, by simpa using nil start, le_refl start⟩
  | @cons start stop next ranges nonempty rest ih =>
    cases count with
    | zero => exact ⟨start, nil start, (cons nonempty rest).le⟩
    | succ count =>
      obtain ⟨mid, shorter, before⟩ := ih count
      exact ⟨mid, cons nonempty shorter, before⟩

/-- The first point after a tiling is the one after its last range. -/
theorem next_eq (tiles : Tiles start ranges next) :
    next = (ranges.getLast?.map fun range => range.2 + 1).getD start := by
  induction tiles with
  | nil start => rfl
  | @cons start stop next ranges nonempty rest ih =>
    rw [ih, List.getLast?_cons]
    cases ranges.getLast? with
    | none => rfl
    | some last => rfl

theorem bounds (tiles : Tiles start ranges next) :
    ∀ range ∈ ranges, start ≤ range.1 ∧ range.1 ≤ range.2 ∧ range.2 < next := by
  induction tiles with
  | nil start => nofun
  | @cons start stop next ranges nonempty rest ih =>
    refine List.forall_mem_cons.mpr ⟨⟨le_refl start, nonempty, ?_⟩, fun range member => ?_⟩
    · have := rest.le
      omega
    · obtain ⟨low, inner, high⟩ := ih range member
      exact ⟨by omega, inner, high⟩

/-- Each range starts right after the one before it. -/
theorem consecutive (tiles : Tiles start ranges next) :
    ranges.IsChain fun range range' => range'.1 = range.2 + 1 := by
  induction tiles with
  | nil start => exact .nil
  | cons nonempty rest ih =>
    cases rest with
    | nil => exact .singleton _
    | cons nonempty' rest' => exact .cons_cons rfl ih

theorem disjoint (tiles : Tiles start ranges next) :
    ranges.Pairwise fun range range' => range.2 < range'.1 := by
  induction tiles with
  | nil start => exact .nil
  | cons nonempty rest ih =>
    refine List.pairwise_cons.mpr ⟨fun range member => ?_, ih⟩
    have := (rest.bounds range member).1
    omega

/-- The points of the ranges are those of the interval. -/
theorem cover (tiles : Tiles start ranges next) (p : Int) :
    (∃ range ∈ ranges, range.1 ≤ p ∧ p ≤ range.2) ↔ start ≤ p ∧ p < next := by
  constructor
  · rintro ⟨range, member, low, high⟩
    obtain ⟨first, _, last⟩ := tiles.bounds range member
    omega
  · induction tiles with
    | nil start => omega
    | @cons start stop next ranges nonempty rest ih =>
      rintro ⟨low, high⟩
      by_cases here : p ≤ stop
      · exact ⟨(start, stop), List.mem_cons_self .., low, here⟩
      · obtain ⟨range, member, inside⟩ := ih ⟨by omega, high⟩
        exact ⟨range, List.mem_cons_of_mem _ member, inside⟩

theorem eq_nil_iff (tiles : Tiles start ranges next) : ranges = [] ↔ start = next := by
  cases tiles with
  | nil start => exact iff_of_true rfl rfl
  | cons nonempty rest =>
    have := rest.le
    exact iff_of_false nofun (by omega)

end Tiles

/-- The value on a range is the value on its first part, then on the rest. -/
def Concatenates (f : Int → Int → List α) : Prop :=
  ∀ start mid stop, start ≤ mid → mid < stop → f start stop = f start mid ++ f (mid + 1) stop

/-- The elements of a list that is in the order of a key, by ranges of the key. -/
theorem Concatenates.of_ordered {key : α → Int} {as : List α} (ordered : as.Pairwise fun a b => key a ≤ key b)
    (keep : α → Prop) [DecidablePred keep] :
    Concatenates fun start stop => as.filter fun a => start ≤ key a ∧ key a ≤ stop ∧ keep a := by
  intro start mid stop low high
  dsimp only
  induction as with
  | nil => rfl
  | cons a as ih =>
    obtain ⟨first, rest⟩ := List.pairwise_cons.mp ordered
    have tail := ih rest
    by_cases early : key a ≤ mid
    · have same : decide (start ≤ key a ∧ key a ≤ stop ∧ keep a) =
          decide (start ≤ key a ∧ key a ≤ mid ∧ keep a) :=
        decide_eq_decide.mpr <|
          and_congr_right fun _ => and_congr_left fun _ => iff_of_true (by omega) early
      have late : ¬ decide (mid + 1 ≤ key a ∧ key a ≤ stop ∧ keep a) = true :=
        mt of_decide_eq_true fun above => by omega
      rw [List.filter_cons, List.filter_cons, List.filter_cons, same, if_neg late, tail]
      split
      · rfl
      · rfl
    · have same : decide (start ≤ key a ∧ key a ≤ stop ∧ keep a) =
          decide (mid + 1 ≤ key a ∧ key a ≤ stop ∧ keep a) :=
        decide_eq_decide.mpr <| and_congr_left fun _ => iff_of_true (by omega) (by omega)
      have none : (a :: as).filter (fun b => start ≤ key b ∧ key b ≤ mid ∧ keep b) = [] := by
        refine List.filter_eq_nil_iff.mpr (List.forall_mem_cons.mpr ⟨?_, fun b member => ?_⟩)
        · exact mt of_decide_eq_true fun inside => early inside.2.1
        · have above := first b member
          exact mt of_decide_eq_true fun inside => by omega
      have later : as.filter (fun b => start ≤ key b ∧ key b ≤ mid ∧ keep b) = [] :=
        List.filter_eq_nil_iff.mpr fun b member =>
          List.filter_eq_nil_iff.mp none b (List.mem_cons_of_mem _ member)
      rw [none, List.nil_append, List.filter_cons, List.filter_cons, same, tail, later, List.nil_append]

/-- The values on the ranges of a tiling, one after another, are the value on the
whole interval. -/
theorem Concatenates.tiles {f : Int → Int → List α} (splits : Concatenates f) {start next : Int}
    {ranges : List (Int × Int)} (tiles : Tiles start ranges next) :
    (ranges.flatMap fun range => f range.1 range.2) = if start < next then f start (next - 1) else [] := by
  induction tiles with
  | nil start => rw [if_neg (lt_irrefl start), List.flatMap_nil]
  | @cons start stop next ranges nonempty rest ih =>
    have last := rest.le
    rw [List.flatMap_cons, ih, if_pos (show start < next by omega)]
    split
    · exact (splits start stop (next - 1) nonempty (by omega)).symm
    · obtain rfl : next = stop + 1 := by omega
      rw [List.append_nil, Int.add_sub_cancel]

end Library
