/-
JSON values, as a service reads them from requests and stores them in columns.

An object is the list of its members.  Each mapping is written with its members in one
fixed order, so equality of objects is equality of lists.
-/
import Mathlib.Data.Rat.Defs

namespace ControlPlane

/-- A JSON value.  Numbers are exact: an integer and a float of one value are equal. -/
inductive Json where
  | null
  | bool (b : Bool)
  | num (q : Rat)
  | str (s : String)
  | arr (items : List Json)
  | obj (members : List (String × Json))

namespace Json

mutual

/-- Equality of values, by recursion into arrays and objects. -/
def decEq : (a b : Json) → Decidable (a = b)
  | .null, .null => isTrue rfl
  | .bool a, .bool b => decidable_of_iff (a = b) (by rw [Json.bool.injEq])
  | .num a, .num b => decidable_of_iff (a = b) (by rw [Json.num.injEq])
  | .str a, .str b => decidable_of_iff (a = b) (by rw [Json.str.injEq])
  | .arr as, .arr bs =>
      have := decEqItems as bs
      decidable_of_iff (as = bs) (by rw [Json.arr.injEq])
  | .obj as, .obj bs =>
      have := decEqMembers as bs
      decidable_of_iff (as = bs) (by rw [Json.obj.injEq])
  | .null, .bool _ | .null, .num _ | .null, .str _ | .null, .arr _ | .null, .obj _
  | .bool _, .null | .bool _, .num _ | .bool _, .str _ | .bool _, .arr _ | .bool _, .obj _
  | .num _, .null | .num _, .bool _ | .num _, .str _ | .num _, .arr _ | .num _, .obj _
  | .str _, .null | .str _, .bool _ | .str _, .num _ | .str _, .arr _ | .str _, .obj _
  | .arr _, .null | .arr _, .bool _ | .arr _, .num _ | .arr _, .str _ | .arr _, .obj _
  | .obj _, .null | .obj _, .bool _ | .obj _, .num _ | .obj _, .str _ | .obj _, .arr _ =>
      isFalse Json.noConfusion

/-- Equality of arrays. -/
def decEqItems : (as bs : List Json) → Decidable (as = bs)
  | [], [] => isTrue rfl
  | [], _ :: _ => isFalse (List.cons_ne_nil _ _).symm
  | _ :: _, [] => isFalse (List.cons_ne_nil _ _)
  | a :: as, b :: bs =>
      have := decEq a b
      have := decEqItems as bs
      decidable_of_iff (a = b ∧ as = bs) (by rw [List.cons.injEq])

/-- Equality of objects. -/
def decEqMembers : (as bs : List (String × Json)) → Decidable (as = bs)
  | [], [] => isTrue rfl
  | [], _ :: _ => isFalse (List.cons_ne_nil _ _).symm
  | _ :: _, [] => isFalse (List.cons_ne_nil _ _)
  | (k, a) :: as, (l, b) :: bs =>
      have := decEq a b
      have := decEqMembers as bs
      decidable_of_iff ((k = l ∧ a = b) ∧ as = bs) (by rw [List.cons.injEq, Prod.mk.injEq])

end

instance : DecidableEq Json := decEq

end Json

/-- The members of a mapping. -/
abbrev Members := List (String × Json)

/-- `mapping.get(key)`. -/
def Members.get? (members : Members) (key : String) : Option Json :=
  (members.find? fun m => m.1 = key).map (·.2)

/-- `mapping.get(key)`, where nothing is null. -/
def memberOf (members : Members) (key : String) : Json := (members.get? key).getD .null

/-- The dictionary display with `base` spread in front of `new`. -/
def Members.spread (base new : Members) : Members :=
  (base.filter fun m => !new.any fun n => n.1 = m.1) ++ new

theorem Members.get?_append (a b : Members) (key : String) :
    Members.get? (a ++ b) key = (a.get? key).or (b.get? key) := by
  unfold Members.get?
  rw [List.find?_append]
  cases List.find? (fun m => decide (m.1 = key)) a <;> rfl

/-- Members that are filtered by name. -/
theorem Members.get?_filter (members : Members) (keep : String → Bool) (key : String) :
    Members.get? (members.filter fun m => keep m.1) key
      = if keep key then members.get? key else none := by
  unfold Members.get?
  induction members with
  | nil => simp
  | cons m rest ih =>
      by_cases hm : m.1 = key
      · subst hm
        by_cases hkeep : keep m.1 = true
        · simp [hkeep]
        · simp only [Bool.not_eq_true] at hkeep
          rw [List.filter_cons_of_neg (by simp [hkeep]), ih]
          simp [hkeep]
      · by_cases hkeep : keep m.1 = true
        · rw [List.filter_cons_of_pos (by simpa using hkeep)]
          simpa [List.find?_cons, hm] using ih
        · rw [List.filter_cons_of_neg (by simpa using hkeep), ih]
          simp [hm]

/-- The members in front count unless the spread display names them again. -/
theorem Members.get?_spread (base new : Members) (key : String) :
    (base.spread new).get? key = (new.get? key).or (base.get? key) := by
  unfold Members.spread
  rw [Members.get?_append, Members.get?_filter base fun k => !new.any fun n => decide (n.1 = k)]
  by_cases h : (new.any fun n => decide (n.1 = key)) = true
  · obtain ⟨m, hm⟩ := Option.isSome_iff_exists.mp (List.find?_isSome.mpr (List.any_eq_true.mp h))
    simp [h, Members.get?, hm]
  · have hnone : new.find? (fun n => decide (n.1 = key)) = none := by
      rw [List.find?_eq_none]
      intro n hn hkey
      exact h (List.any_eq_true.mpr ⟨n, hn, hkey⟩)
    simp [h, Members.get?, hnone]

/-- The members with one more, sorted by key. -/
def insertMember (member : String × Json) : Members → Members
  | [] => [member]
  | other :: rest =>
      if member.1 < other.1 then member :: other :: rest else other :: insertMember member rest

mutual

/-- The value with its booleans as the numbers that Python takes them for, and its members
sorted: values that Python finds equal have the same. -/
def plain : Json → Json
  | .bool b => .num (if b then 1 else 0)
  | .arr items => .arr (plainItems items)
  | .obj members => .obj (plainMembers members)
  | .null => .null
  | .num q => .num q
  | .str text => .str text

/-- Every item, made plain. -/
def plainItems : List Json → List Json
  | [] => []
  | item :: rest => plain item :: plainItems rest

/-- Every member, made plain, in the order of the keys. -/
def plainMembers : List (String × Json) → List (String × Json)
  | [] => []
  | (key, value) :: rest => insertMember (key, plain value) (plainMembers rest)

end

mutual

/-- The value with the members of every object sorted, as `sort_keys=True` takes them. -/
def sortKeys : Json → Json
  | .arr items => .arr (sortItems items)
  | .obj members => .obj (sortMembers members)
  | .null => .null
  | .bool b => .bool b
  | .num q => .num q
  | .str text => .str text

/-- Every item, sorted inside. -/
def sortItems : List Json → List Json
  | [] => []
  | item :: rest => sortKeys item :: sortItems rest

/-- Every member, sorted inside, in the order of the keys. -/
def sortMembers : List (String × Json) → List (String × Json)
  | [] => []
  | (key, value) :: rest => insertMember (key, sortKeys value) (sortMembers rest)

end

theorem insertMember_perm (member : String × Json) (members : Members) :
    (insertMember member members).Perm (member :: members) := by
  induction members with
  | nil => exact .refl _
  | cons other rest ih =>
      unfold insertMember
      split
      · exact .refl _
      · exact (ih.cons other).trans (.swap _ _ _)

theorem sortMembers_perm (members : Members) :
    (sortMembers members).Perm (members.map fun member => (member.1, sortKeys member.2)) := by
  induction members with
  | nil => exact .refl _
  | cons member rest ih => exact (insertMember_perm _ _).trans (ih.cons _)

end ControlPlane
