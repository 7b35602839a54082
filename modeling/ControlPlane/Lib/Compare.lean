/-
How Python compares JSON values.

`==` compares the plain forms of two values.  `<` and its kin compare numbers with numbers, text
with text and lists with lists, by the first items that differ; for any other pair they raise.
-/
import ControlPlane.Lib.Json
import Mathlib.Algebra.Order.Ring.Unbundled.Rat
import Mathlib.Data.String.Basic
import Mathlib.Order.Compare

namespace ControlPlane

/-- `a == b`. -/
def same (a b : Json) : Bool := plain a = plain b

mutual

/-- Which of two plain values is the lesser, where they can be compared. -/
def comparePlain : Json → Json → Option Ordering
  | .num p, .num q => some (compareOfLessAndEq p q)
  | .str a, .str b => some (compareOfLessAndEq a b)
  | .arr as, .arr bs => compareItems as bs
  | _, _ => none

/-- The same of two lists. -/
def compareItems : List Json → List Json → Option Ordering
  | [], [] => some .eq
  | [], _ :: _ => some .lt
  | _ :: _, [] => some .gt
  | a :: as, b :: bs => if a = b then compareItems as bs else comparePlain a b

end

/-- Which of two values is the lesser; nothing where `<` raises. -/
def compareValues (a b : Json) : Option Ordering := comparePlain (plain a) (plain b)

example : compareValues (.arr [.bool true, .str "b"]) (.arr [.num 1, .str "a"]) = some .gt := by
  decide

/-! ### The order of plain values -/

section Linear

variable {α : Type} [LinearOrder α] {a b c : α}

theorem compareOfLessAndEq_lt : compareOfLessAndEq a b = .lt ↔ a < b := by
  unfold compareOfLessAndEq
  split
  · next h => simp [h]
  · next h => split <;> simp [h]

theorem compareOfLessAndEq_same : compareOfLessAndEq a b = .eq ↔ a = b := by
  unfold compareOfLessAndEq
  split
  · next h => simpa using h.ne
  · next h => split <;> simp_all

theorem compareOfLessAndEq_swap : compareOfLessAndEq b a = (compareOfLessAndEq a b).swap := by
  unfold compareOfLessAndEq
  rcases lt_trichotomy a b with h | rfl | h
  · simp [h, h.not_gt, h.ne']
  · simp
  · simp [h, h.not_gt, h.ne']

end Linear

mutual

theorem comparePlain_swap : ∀ a b : Json, comparePlain b a = (comparePlain a b).map Ordering.swap
  | .num p, .num q => congrArg some compareOfLessAndEq_swap
  | .str a, .str b => congrArg some compareOfLessAndEq_swap
  | .arr as, .arr bs => compareItems_swap as bs
  | .null, b => by cases b <;> rfl
  | .bool _, b => by cases b <;> rfl
  | .obj _, b => by cases b <;> rfl
  | .num _, .null | .num _, .bool _ | .num _, .str _ | .num _, .arr _ | .num _, .obj _ => rfl
  | .str _, .null | .str _, .bool _ | .str _, .num _ | .str _, .arr _ | .str _, .obj _ => rfl
  | .arr _, .null | .arr _, .bool _ | .arr _, .num _ | .arr _, .str _ | .arr _, .obj _ => rfl

theorem compareItems_swap : ∀ as bs : List Json,
    compareItems bs as = (compareItems as bs).map Ordering.swap
  | [], [] => rfl
  | [], _ :: _ => rfl
  | _ :: _, [] => rfl
  | a :: as, b :: bs => by
      unfold compareItems
      by_cases h : a = b
      · rw [if_pos h, if_pos h.symm]
        exact compareItems_swap as bs
      · rw [if_neg h, if_neg (Ne.symm h)]
        exact comparePlain_swap a b

end

/-- No value is less than itself. -/
theorem comparePlain_irrefl (a : Json) : comparePlain a a ≠ some .lt := by
  intro h
  have hswap := comparePlain_swap a a
  rw [h] at hswap
  cases hswap

theorem comparePlain_asymm {a b : Json} (h : comparePlain a b = some .lt) :
    comparePlain b a ≠ some .lt := by
  rw [comparePlain_swap a b, h]
  decide

mutual

theorem comparePlain_trans : ∀ {a b c : Json}, comparePlain a b = some .lt →
    comparePlain b c = some .lt → comparePlain a c = some .lt
  | .num p, .num q, .num r, h, h' => by
      unfold comparePlain at *
      rw [Option.some.injEq, compareOfLessAndEq_lt] at *
      exact lt_trans h h'
  | .str a, .str b, .str c, h, h' => by
      unfold comparePlain at *
      rw [Option.some.injEq, compareOfLessAndEq_lt] at *
      exact lt_trans h h'
  | .arr as, .arr bs, .arr cs, h, h' => by
      unfold comparePlain at *
      exact compareItems_trans h h'

theorem compareItems_trans : ∀ {as bs cs : List Json}, compareItems as bs = some .lt →
    compareItems bs cs = some .lt → compareItems as cs = some .lt
  | [], _ :: _, _ :: _, _, _ => rfl
  | a :: as, b :: bs, c :: cs, h, h' => by
      unfold compareItems at *
      by_cases hab : a = b
      · subst hab
        rw [if_pos rfl] at h
        by_cases hbc : a = c
        · rw [if_pos hbc] at h' ⊢
          exact compareItems_trans h h'
        · rw [if_neg hbc] at h' ⊢
          exact h'
      · rw [if_neg hab] at h
        by_cases hbc : b = c
        · subst hbc
          rw [if_neg hab]
          exact h
        · rw [if_neg hbc] at h'
          have hac : a ≠ c := by
            rintro rfl
            exact comparePlain_asymm h h'
          rw [if_neg hac]
          exact comparePlain_trans h h'

end

mutual

/-- Values that compare as equals are equal. -/
theorem eq_of_comparePlain : ∀ {a b : Json}, comparePlain a b = some .eq → a = b
  | .num p, .num q, h => by
      unfold comparePlain at h
      rw [Option.some.injEq, compareOfLessAndEq_same] at h
      rw [h]
  | .str a, .str b, h => by
      unfold comparePlain at h
      rw [Option.some.injEq, compareOfLessAndEq_same] at h
      rw [h]
  | .arr as, .arr bs, h => by
      unfold comparePlain at h
      rw [eq_of_compareItems h]

theorem eq_of_compareItems : ∀ {as bs : List Json}, compareItems as bs = some .eq → as = bs
  | [], [], _ => rfl
  | a :: as, b :: bs, h => by
      unfold compareItems at h
      by_cases hab : a = b
      · rw [if_pos hab] at h
        rw [hab, eq_of_compareItems h]
      · rw [if_neg hab] at h
        exact absurd (eq_of_comparePlain h) hab

end

/-- Of two values that can be compared and differ, one is the lesser. -/
theorem lt_or_lt_of_comparable {a b : Json} (h : (comparePlain a b).isSome = true) (hne : a ≠ b) :
    comparePlain a b = some .lt ∨ comparePlain b a = some .lt := by
  obtain ⟨ordering, hordering⟩ := Option.isSome_iff_exists.mp h
  cases ordering with
  | lt => exact .inl hordering
  | eq => exact absurd (eq_of_comparePlain hordering) hne
  | gt =>
      right
      rw [comparePlain_swap a b, hordering]
      rfl

end ControlPlane
