/-
Merkle trees over a list of leaves.

A tree of `n` leaves splits at the largest power of two below `n`, so its shape is
a function of its size alone.  Everything here is stated over an arbitrary node
operation: nothing about hashing is used, and the same definitions run over any
carrier, which is what lets a later file run them over values that remember how
they were built.

The one arithmetic fact behind consistency proofs is `splitPoint_stable`: a prefix
that reaches past the split of the whole tree splits at the same place.
-/
import Mathlib.Data.List.Basic
import Mathlib.Data.Nat.Notation
import Mathlib.Algebra.Order.Ring.Nat
import Mathlib.Tactic.Linarith

namespace ControlPlane.Merkle

/-- The largest power of two below `n`, for `n` at least two. -/
def splitPoint (n : Nat) : Nat := 2 ^ Nat.log2 (n - 1)

theorem splitPoint_pos (n : Nat) : 0 < splitPoint n := Nat.two_pow_pos _

theorem splitPoint_lt {n : Nat} (h : 2 ≤ n) : splitPoint n < n := by
  have := Nat.log2_self_le (n := n - 1) (by omega)
  unfold splitPoint
  omega

/-- The split point is a power of two with the size between it and its double. -/
theorem splitPoint_spec {n : Nat} (h : 2 ≤ n) :
    ∃ t, splitPoint n = 2 ^ t ∧ 2 ^ t ≤ n - 1 ∧ n - 1 < 2 ^ (t + 1) :=
  ⟨Nat.log2 (n - 1), rfl, Nat.log2_self_le (by omega), Nat.lt_log2_self⟩

/-- A power of two with the size between it and its double is the split point. -/
theorem splitPoint_eq {n t : Nat} (hlo : 2 ^ t ≤ n - 1) (hhi : n - 1 < 2 ^ (t + 1)) :
    splitPoint n = 2 ^ t := by
  have hpos : 0 < 2 ^ t := Nat.two_pow_pos t
  have : Nat.log2 (n - 1) = t := (Nat.log2_eq_iff (by omega)).mpr ⟨hlo, hhi⟩
  rw [splitPoint, this]

/-- **Past the split of the whole tree, a prefix splits at the same place.** -/
theorem splitPoint_stable {m n : Nat} (hlt : splitPoint n < m) (hle : m ≤ n) :
    splitPoint m = splitPoint n := by
  have hpos := splitPoint_pos n
  obtain ⟨t, ht, hlo, hhi⟩ := splitPoint_spec (n := n) (by omega)
  rw [ht] at hlt ⊢
  exact splitPoint_eq (by omega) (by omega)

/-! ### The root and the paths -/

section
variable {α : Type} (node : α → α → α) (empty : α)

/-- The root of the tree over a list of leaves. -/
def root (leaves : List α) : α :=
  if leaves.length ≤ 1 then leaves.headD empty
  else
    node (root (leaves.take (splitPoint leaves.length)))
      (root (leaves.drop (splitPoint leaves.length)))
termination_by leaves.length
decreasing_by
  · have := splitPoint_lt (n := leaves.length) (by omega)
    simp only [List.length_take]
    omega
  · have := splitPoint_pos leaves.length
    simp only [List.length_drop]
    omega

/-- The siblings on the way from leaf `i` to the root, the leaf's own first. -/
def inclusionPath (leaves : List α) (i : Nat) : List α :=
  if leaves.length ≤ 1 then []
  else
    let k := splitPoint leaves.length
    if i < k then inclusionPath (leaves.take k) i ++ [root node empty (leaves.drop k)]
    else inclusionPath (leaves.drop k) (i - k) ++ [root node empty (leaves.take k)]
termination_by leaves.length
decreasing_by
  · have := splitPoint_lt (n := leaves.length) (by omega)
    simp only [List.length_take]
    omega
  · have := splitPoint_pos leaves.length
    simp only [List.length_drop]
    omega

/--
The nodes that tie the tree over the first `m` leaves to the whole tree.  While
`known` holds the prefix is a subtree whose root the reader already has, and that
root is left out.
-/
def consistencyPath (m : Nat) (leaves : List α) (known : Bool) : List α :=
  if leaves.length ≤ m then (if known then [] else [root node empty leaves])
  else if leaves.length ≤ 1 then []
  else
    let k := splitPoint leaves.length
    if m ≤ k then
      consistencyPath m (leaves.take k) known ++ [root node empty (leaves.drop k)]
    else consistencyPath (m - k) (leaves.drop k) false ++ [root node empty (leaves.take k)]
termination_by leaves.length
decreasing_by
  · have := splitPoint_lt (n := leaves.length) (by omega)
    simp only [List.length_take]
    omega
  · have := splitPoint_pos leaves.length
    simp only [List.length_drop]
    omega

variable {node empty}

@[simp] theorem root_nil : root node empty [] = empty := by rw [root]; simp

@[simp] theorem root_singleton (a : α) : root node empty [a] = a := by rw [root]; simp

/-- A tree of two or more leaves is the node over the trees of its two parts. -/
theorem root_split (leaves : List α) (h : 2 ≤ leaves.length) :
    root node empty leaves
      = node (root node empty (leaves.take (splitPoint leaves.length)))
          (root node empty (leaves.drop (splitPoint leaves.length))) := by
  conv => lhs; rw [root]
  rw [if_neg (by omega)]

/-- The same for a prefix that reaches past the split of the whole. -/
theorem root_take_split {leaves : List α} {m : Nat} (hlt : splitPoint leaves.length < m)
    (hle : m ≤ leaves.length) :
    root node empty (leaves.take m)
      = node (root node empty (leaves.take (splitPoint leaves.length)))
          (root node empty ((leaves.drop (splitPoint leaves.length)).take
            (m - splitPoint leaves.length))) := by
  have hpos := splitPoint_pos leaves.length
  have hlen : (leaves.take m).length = m := by rw [List.length_take]; omega
  rw [root_split _ (by omega), hlen, splitPoint_stable hlt hle, List.take_take,
    Nat.min_eq_left (by omega), List.drop_take]

theorem inclusionPath_left {leaves : List α} {i : Nat} (h : 2 ≤ leaves.length)
    (hi : i < splitPoint leaves.length) :
    inclusionPath node empty leaves i
      = inclusionPath node empty (leaves.take (splitPoint leaves.length)) i
        ++ [root node empty (leaves.drop (splitPoint leaves.length))] := by
  conv => lhs; rw [inclusionPath]
  rw [if_neg (by omega)]
  simp only [hi, if_true]

theorem inclusionPath_right {leaves : List α} {i : Nat} (h : 2 ≤ leaves.length)
    (hi : ¬ i < splitPoint leaves.length) :
    inclusionPath node empty leaves i
      = inclusionPath node empty (leaves.drop (splitPoint leaves.length))
          (i - splitPoint leaves.length)
        ++ [root node empty (leaves.take (splitPoint leaves.length))] := by
  conv => lhs; rw [inclusionPath]
  rw [if_neg (by omega)]
  simp only [hi, if_false]

theorem consistencyPath_whole {leaves : List α} {m : Nat} (h : leaves.length ≤ m)
    (known : Bool) :
    consistencyPath node empty m leaves known
      = if known then [] else [root node empty leaves] := by
  rw [consistencyPath, if_pos h]

theorem consistencyPath_left {leaves : List α} {m : Nat} (h : m < leaves.length)
    (hm : 0 < m) (hk : m ≤ splitPoint leaves.length) (known : Bool) :
    consistencyPath node empty m leaves known
      = consistencyPath node empty m (leaves.take (splitPoint leaves.length)) known
        ++ [root node empty (leaves.drop (splitPoint leaves.length))] := by
  conv => lhs; rw [consistencyPath]
  rw [if_neg (by omega), if_neg (by omega)]
  simp only [hk, if_true]

theorem consistencyPath_right {leaves : List α} {m : Nat} (h : m < leaves.length)
    (hk : ¬ m ≤ splitPoint leaves.length) (known : Bool) :
    consistencyPath node empty m leaves known
      = consistencyPath node empty (m - splitPoint leaves.length)
          (leaves.drop (splitPoint leaves.length)) false
        ++ [root node empty (leaves.take (splitPoint leaves.length))] := by
  have hpos := splitPoint_pos leaves.length
  conv => lhs; rw [consistencyPath]
  rw [if_neg (by omega), if_neg (by omega)]
  simp only [hk, if_false]

/--
Dropping the `known` flag puts the prefix root in front exactly when the prefix is
a complete subtree of the left spine, that is when its size is a power of two.
-/
theorem consistencyPath_known : ∀ (n : Nat) (leaves : List α), leaves.length = n →
    ∀ m, 0 < m → m < n →
      consistencyPath node empty m leaves false
        = if m = 2 ^ Nat.log2 m then
            root node empty (leaves.take m) :: consistencyPath node empty m leaves true
          else consistencyPath node empty m leaves true := by
  intro n
  induction n using Nat.strong_induction_on with
  | _ n ih =>
      intro leaves hlen m hm hmn
      subst hlen
      obtain ⟨t, ht, hlo, hhi⟩ := splitPoint_spec (n := leaves.length) (by omega)
      have htake : (leaves.take (splitPoint leaves.length)).length
          = splitPoint leaves.length := by
        rw [List.length_take]
        have := splitPoint_lt (n := leaves.length) (by omega)
        omega
      by_cases hk : m ≤ splitPoint leaves.length
      · rw [consistencyPath_left hmn hm hk, consistencyPath_left hmn hm hk]
        rcases Nat.lt_or_eq_of_le hk with hlt | heq
        · rw [ih _ (splitPoint_lt (by omega)) _ htake m hm hlt, List.take_take,
            Nat.min_eq_left hk]
          split <;> rfl
        · -- the prefix is the left subtree itself
          have hpow : m = 2 ^ Nat.log2 m := by rw [heq, ht, Nat.log2_two_pow]
          rw [if_pos hpow, consistencyPath_whole (by omega), consistencyPath_whole (by omega),
            heq]
          rfl
      · -- a size strictly between two successive powers of two is not one
        have hnot : ¬ m = 2 ^ Nat.log2 m := by
          intro hpow
          rw [ht] at hk
          rw [hpow] at hk hmn
          have h1 : t < Nat.log2 m :=
            (Nat.pow_lt_pow_iff_right (a := 2) (by decide)).mp (by omega)
          have h2 : Nat.log2 m < t + 1 :=
            (Nat.pow_lt_pow_iff_right (a := 2) (by decide)).mp (by omega)
          omega
        rw [if_neg hnot, consistencyPath_right hmn hk, consistencyPath_right hmn hk]

end

end ControlPlane.Merkle
