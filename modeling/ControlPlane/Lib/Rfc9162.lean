/-
The verification algorithms of RFC 9162, sections 2.1.3.2 and 2.1.4.2.

A verifier knows two numbers and a list of hashes.  It walks the list upwards from
a leaf, or from a block of leaves, and decides from the bits of the two numbers on
which side of the running hash the next one belongs.  A generator works the other
way round: it cuts the tree at its split point and recurses into one part.

The bridge is `rebuild`, which consumes the same list from the root end, following
the splits.  `walk_left` and `walk_right` say that the last element a walk consumes
belongs to the topmost split, so the walk and the recursion agree on every list,
not only on honestly generated ones.  Both completeness and soundness are then
inductions over the tree.

The two algorithms share their loop.  It is written once, over what a sibling on
either side does to the running state: one hash for inclusion, a pair for
consistency.
-/
import ControlPlane.Lib.MerkleTree

namespace ControlPlane.Rfc9162

open Merkle

/-! ### The algorithms -/

/-- Right-shift both numbers equally until the first is odd or zero. -/
def shiftToSet (fn sn : Nat) : Nat × Nat :=
  if fn = 0 ∨ fn % 2 = 1 then (fn, sn) else shiftToSet (fn / 2) (sn / 2)
termination_by fn
decreasing_by omega

/-- Right-shift both numbers equally until the first is even. -/
def shiftToUnset (fn sn : Nat) : Nat × Nat :=
  if fn % 2 = 1 then shiftToUnset (fn / 2) (sn / 2) else (fn, sn)
termination_by fn
decreasing_by omega

section
variable {α β : Type} (left right : β → α → β)

/--
The loop.  `left s c` is the state after a sibling `c` on the left, `right s c`
after one on the right.  The loop fails when it is given an element too many, and
its result counts only when the second number has come down to zero.
-/
def walk : Nat → Nat → β → List α → Option β
  | _, sn, s, [] => if sn = 0 then some s else none
  | fn, sn, s, c :: rest =>
      if sn = 0 then none
      else if fn % 2 = 1 then walk (fn / 2) (sn / 2) (left s c) rest
      else if fn = sn then
        walk ((shiftToSet fn sn).1 / 2) ((shiftToSet fn sn).2 / 2) (left s c) rest
      else walk (fn / 2) (sn / 2) (right s c) rest

end

section
variable {α : Type} (node : α → α → α)

/-- What an inclusion proof reconstructs (2.1.3.2): the root, from a leaf hash. -/
def inclusionRoot (leafIndex treeSize : Nat) (hash : α) (path : List α) : Option α :=
  if treeSize ≤ leafIndex then none
  else walk (fun r p => node p r) (fun r p => node r p) leafIndex (treeSize - 1) hash path

/-- The inclusion verification algorithm of section 2.1.3.2. -/
def verifyInclusion [DecidableEq α] (leafIndex treeSize : Nat) (hash : α) (path : List α)
    (rootHash : α) : Bool :=
  inclusionRoot node leafIndex treeSize hash path = some rootHash

/-- Whether a tree size is an exact power of two. -/
def isPowerOfTwo (n : Nat) : Bool := n = 2 ^ Nat.log2 n

/-- What a consistency proof reconstructs (2.1.4.2): the old and the new root. -/
def consistencyRoots (first second : Nat) (firstHash : α) (path : List α) : Option (α × α) :=
  if path.isEmpty then none
  else
    match (if isPowerOfTwo first then firstHash :: path else path) with
    | [] => none
    | c :: rest =>
        walk (fun s c => (node c s.1, node c s.2)) (fun s c => (s.1, node s.2 c))
          (shiftToUnset (first - 1) (second - 1)).1 (shiftToUnset (first - 1) (second - 1)).2
          (c, c) rest

/-- The consistency verification algorithm of section 2.1.4.2. -/
def verifyConsistency [DecidableEq α] (first second : Nat) (firstHash secondHash : α)
    (path : List α) : Bool :=
  consistencyRoots node first second firstHash path = some (firstHash, secondHash)

end

/-! ### The same result, computed from the root down -/

section
variable {α β : Type} (left right : β → α → β)

/--
The state at the root of a tree of `n` leaves, from the state `s` at the block that
holds leaf `i`.  `stop` says when that block has been reached.
-/
def rebuild (stop : Nat → Nat → Bool) (n i : Nat) (s : β) (path : List α) : Option β :=
  if n ≤ 1 ∨ stop n i then (if path.isEmpty then some s else none)
  else
    match path.getLast? with
    | none => none
    | some c =>
        if i < splitPoint n then
          (rebuild stop (splitPoint n) i s path.dropLast).map (right · c)
        else
          (rebuild stop (n - splitPoint n) (i - splitPoint n) s path.dropLast).map (left · c)
termination_by n
decreasing_by
  · exact splitPoint_lt (by omega)
  · have := splitPoint_pos n
    omega

variable {left right} {stop : Nat → Nat → Bool}

theorem rebuild_base {n i : Nat} (h : n ≤ 1 ∨ stop n i = true) (s : β) (path : List α) :
    rebuild left right stop n i s path = if path.isEmpty then some s else none := by
  rw [rebuild, if_pos h]

theorem rebuild_nil {n i : Nat} (hn : 2 ≤ n) (hstop : stop n i = false) (s : β) :
    rebuild left right stop n i s [] = none := by
  rw [rebuild, if_neg (by simp [hstop]; omega)]
  rfl

theorem rebuild_left {n i : Nat} (hn : 2 ≤ n) (hstop : stop n i = false)
    (hi : i < splitPoint n) (s : β) (path : List α) (c : α) :
    rebuild left right stop n i s (path ++ [c])
      = (rebuild left right stop (splitPoint n) i s path).map (right · c) := by
  conv => lhs; rw [rebuild]
  rw [if_neg (by simp [hstop]; omega), List.getLast?_concat, List.dropLast_concat]
  simp only [hi, if_true]

theorem rebuild_right {n i : Nat} (hn : 2 ≤ n) (hstop : stop n i = false)
    (hi : ¬ i < splitPoint n) (s : β) (path : List α) (c : α) :
    rebuild left right stop n i s (path ++ [c])
      = (rebuild left right stop (n - splitPoint n) (i - splitPoint n) s path).map
          (left · c) := by
  conv => lhs; rw [rebuild]
  rw [if_neg (by simp [hstop]; omega), List.getLast?_concat, List.dropLast_concat]
  simp only [hi, if_false]

end

/-! ### How the shifts see the topmost bit

Each lemma says that a number and the same number under a higher bit are shifted by
equally many places, so the bit survives and the rest is what it was.
-/

private theorem two_pow_succ (t : Nat) : 2 ^ (t + 1) = 2 * 2 ^ t := by
  rw [Nat.pow_succ]
  omega

theorem shiftToSet_odd {fn sn : Nat} (h : fn % 2 = 1) : shiftToSet fn sn = (fn, sn) := by
  rw [shiftToSet, if_pos (Or.inr h)]

theorem shiftToSet_even {fn sn : Nat} (hpos : 0 < fn) (h : fn % 2 = 0) :
    shiftToSet fn sn = shiftToSet (fn / 2) (sn / 2) := by
  conv => lhs; rw [shiftToSet]
  rw [if_neg (by omega)]

theorem shiftToUnset_odd {fn sn : Nat} (h : fn % 2 = 1) :
    shiftToUnset fn sn = shiftToUnset (fn / 2) (sn / 2) := by
  conv => lhs; rw [shiftToUnset]
  rw [if_pos h]

theorem shiftToUnset_even {fn sn : Nat} (h : fn % 2 = 0) :
    shiftToUnset fn sn = (fn, sn) := by
  rw [shiftToUnset, if_neg (by omega)]

/-- A lone bit is shifted down to one. -/
theorem shiftToSet_two_pow (e : Nat) : shiftToSet (2 ^ e) (2 ^ e) = (1, 1) := by
  induction e with
  | zero => rw [Nat.pow_zero, shiftToSet_odd (by decide)]
  | succ e ih =>
      have hpos := Nat.two_pow_pos e
      rw [two_pow_succ, shiftToSet_even (by omega) (by omega), Nat.mul_div_cancel_left _ (by decide)]
      exact ih

/-- A number below a bit is shifted as if the bit were not there. -/
theorem shiftToSet_below (e : Nat) : ∀ x, 0 < x → x < 2 ^ e →
    ∃ e' a, shiftToSet x x = (a, a) ∧ shiftToSet (2 ^ e + x) (2 ^ e + x)
      = (2 ^ e' + a, 2 ^ e' + a) ∧ a % 2 = 1 ∧ a < 2 ^ e' := by
  induction e with
  | zero =>
      intro x hpos hlt
      rw [Nat.pow_zero] at hlt
      omega
  | succ e ih =>
      intro x hpos hlt
      rw [two_pow_succ] at hlt
      by_cases hodd : x % 2 = 1
      · refine ⟨e + 1, x, shiftToSet_odd hodd, shiftToSet_odd ?_, hodd, ?_⟩
        · rw [two_pow_succ]; omega
        · rw [two_pow_succ]; exact hlt
      · obtain ⟨e', a, hx, hbit, ha, hlt'⟩ := ih (x / 2) (by omega) (by omega)
        refine ⟨e', a, ?_, ?_, ha, hlt'⟩
        · rw [shiftToSet_even hpos (by omega)]
          exact hx
        · rw [two_pow_succ, shiftToSet_even (by omega) (by omega),
            show (2 * 2 ^ e + x) / 2 = 2 ^ e + x / 2 by omega]
          exact hbit

/-- The shift sees no difference between a tree and its left part. -/
theorem shiftToUnset_left (t : Nat) : ∀ a b, a < 2 ^ t → 2 ^ t ≤ b → b < 2 ^ (t + 1) →
    ∃ u a' b', shiftToUnset a b = (a', b') ∧ shiftToUnset a (2 ^ t - 1) = (a', 2 ^ u - 1) ∧
      a' < 2 ^ u ∧ 2 ^ u ≤ b' ∧ b' < 2 ^ (u + 1) := by
  induction t with
  | zero =>
      intro a b ha hlo hhi
      rw [Nat.pow_zero] at ha
      refine ⟨0, a, b, shiftToUnset_even (by omega), shiftToUnset_even (by omega), ?_, hlo, hhi⟩
      rw [Nat.pow_zero]
      exact ha
  | succ t ih =>
      intro a b ha hlo hhi
      by_cases hodd : a % 2 = 1
      · rw [two_pow_succ (t + 1), two_pow_succ] at hhi
        rw [two_pow_succ] at ha hlo
        obtain ⟨u, a', b', h1, h2, hlt, hlo', hhi'⟩ :=
          ih (a / 2) (b / 2) (by omega) (by omega) (by rw [two_pow_succ]; omega)
        refine ⟨u, a', b', ?_, ?_, hlt, hlo', hhi'⟩
        · rw [shiftToUnset_odd hodd]
          exact h1
        · rw [shiftToUnset_odd hodd, two_pow_succ, show (2 * 2 ^ t - 1) / 2 = 2 ^ t - 1 by omega]
          exact h2
      · exact ⟨t + 1, a, b, shiftToUnset_even (by omega), shiftToUnset_even (by omega),
          ha, hlo, hhi⟩

/-- Nor between a tree and its right part, whose numbers lie below the split's bit. -/
theorem shiftToUnset_right (t : Nat) : ∀ a b, a < b → b < 2 ^ t →
    ∃ u a' b', shiftToUnset (2 ^ t + a) (2 ^ t + b) = (2 ^ u + a', 2 ^ u + b') ∧
      shiftToUnset a b = (a', b') ∧ a' ≤ b' ∧ b' < 2 ^ u := by
  induction t with
  | zero =>
      intro a b hab hb
      rw [Nat.pow_zero] at hb
      omega
  | succ t ih =>
      intro a b hab hb
      by_cases hodd : a % 2 = 1
      · rw [two_pow_succ] at hb
        obtain ⟨u, a', b', h1, h2, hle, hlt⟩ := ih (a / 2) (b / 2) (by omega) (by omega)
        refine ⟨u, a', b', ?_, ?_, hle, hlt⟩
        · rw [two_pow_succ, shiftToUnset_odd (by omega),
            show (2 * 2 ^ t + a) / 2 = 2 ^ t + a / 2 by omega,
            show (2 * 2 ^ t + b) / 2 = 2 ^ t + b / 2 by omega]
          exact h1
        · rw [shiftToUnset_odd hodd]
          exact h2
      · refine ⟨t + 1, a, b, shiftToUnset_even ?_, shiftToUnset_even (by omega), by omega, hb⟩
        rw [two_pow_succ]
        omega

theorem shiftToUnset_full (t : Nat) : shiftToUnset (2 ^ t - 1) (2 ^ t - 1) = (0, 0) := by
  induction t with
  | zero => rw [Nat.pow_zero, shiftToUnset_even (by decide)]
  | succ t ih =>
      have hpos := Nat.two_pow_pos t
      rw [two_pow_succ, shiftToUnset_odd (by omega), show (2 * 2 ^ t - 1) / 2 = 2 ^ t - 1 by omega]
      exact ih

/-! ### The last element of a walk belongs to the topmost split -/

section
variable {α β : Type} {left right : β → α → β}

@[simp] theorem walk_zero (fn : Nat) (s : β) (path : List α) :
    walk left right fn 0 s path = if path.isEmpty then some s else none := by
  cases path with
  | nil => rfl
  | cons c rest => rfl

theorem walk_nil {fn sn : Nat} (h : sn ≠ 0) (s : β) :
    walk left right fn sn s ([] : List α) = none := by
  rw [walk, if_neg h]

theorem walk_odd {fn sn : Nat} (hsn : sn ≠ 0) (h : fn % 2 = 1) (s : β) (c : α)
    (rest : List α) :
    walk left right fn sn s (c :: rest)
      = walk left right (fn / 2) (sn / 2) (left s c) rest := by
  rw [walk, if_neg hsn, if_pos h]

theorem walk_even {fn sn : Nat} (h : fn % 2 = 0) (hne : fn < sn) (s : β) (c : α)
    (rest : List α) :
    walk left right fn sn s (c :: rest)
      = walk left right (fn / 2) (sn / 2) (right s c) rest := by
  rw [walk, if_neg (by omega), if_neg (by omega), if_neg (by omega)]

theorem walk_edge {fn : Nat} (hpos : 0 < fn) (h : fn % 2 = 0) (s : β) (c : α)
    (rest : List α) :
    walk left right fn fn s (c :: rest)
      = walk left right ((shiftToSet fn fn).1 / 2) ((shiftToSet fn fn).2 / 2) (left s c)
          rest := by
  rw [walk, if_neg (by omega), if_neg (by omega), if_pos rfl]

/-- A lone bit is used up by one sibling on the left. -/
theorem walk_lone (e : Nat) (s : β) (c : α) (rest : List α) :
    walk left right (2 ^ e) (2 ^ e) s (c :: rest)
      = if rest.isEmpty then some (left s c) else none := by
  have hpos := Nat.two_pow_pos e
  by_cases hodd : 2 ^ e % 2 = 1
  · have hone : 2 ^ e = 1 := by
      cases e with
      | zero => rfl
      | succ e => rw [two_pow_succ] at hodd; omega
    rw [walk_odd (by omega) hodd, hone]
    exact walk_zero 0 _ rest
  · rw [walk_edge hpos (by omega), shiftToSet_two_pow]
    exact walk_zero 0 _ rest

/-- Above a nonzero second number, a bit takes no part in a step and stays. -/
theorem walk_step_below {e fn sn : Nat} (hle : fn ≤ sn) (hlt : sn < 2 ^ e) (hsn : sn ≠ 0)
    (s : β) (d : α) :
    ∃ e' fn' sn' s', fn' ≤ sn' ∧ sn' < 2 ^ e' ∧ ∀ rest,
      walk left right fn sn s (d :: rest) = walk left right fn' sn' s' rest ∧
      walk left right (2 ^ e + fn) (2 ^ e + sn) s (d :: rest)
        = walk left right (2 ^ e' + fn') (2 ^ e' + sn') s' rest := by
  obtain ⟨e, rfl⟩ : ∃ k, e = k + 1 := by
    cases e with
    | zero => rw [Nat.pow_zero] at hlt; omega
    | succ k => exact ⟨k, rfl⟩
  rw [two_pow_succ] at hlt ⊢
  have hfn2 : (2 * 2 ^ e + fn) / 2 = 2 ^ e + fn / 2 := by omega
  have hsn2 : (2 * 2 ^ e + sn) / 2 = 2 ^ e + sn / 2 := by omega
  by_cases hodd : fn % 2 = 1
  · refine ⟨e, fn / 2, sn / 2, left s d, by omega, by omega, fun rest => ⟨?_, ?_⟩⟩
    · exact walk_odd hsn hodd s d rest
    · rw [walk_odd (by omega) (by omega), hfn2, hsn2]
  · rcases Nat.lt_or_eq_of_le hle with hne | rfl
    · refine ⟨e, fn / 2, sn / 2, right s d, by omega, by omega, fun rest => ⟨?_, ?_⟩⟩
      · exact walk_even (by omega) hne s d rest
      · rw [walk_even (by omega) (by omega), hfn2, hsn2]
    · -- the right edge: both are shifted until the first is odd, by equally many places
      obtain ⟨e', a, ha, hbit, hodd', hlt'⟩ :=
        shiftToSet_below (e + 1) fn (by omega) (by rw [two_pow_succ]; exact hlt)
      obtain ⟨e', rfl⟩ : ∃ k, e' = k + 1 := by
        cases e' with
        | zero => rw [Nat.pow_zero] at hlt'; omega
        | succ k => exact ⟨k, rfl⟩
      rw [two_pow_succ] at hlt' hbit
      rw [two_pow_succ] at hbit
      refine ⟨e', a / 2, a / 2, left s d, le_refl _, by omega, fun rest => ⟨?_, ?_⟩⟩
      · rw [walk_edge (by omega) (by omega), ha]
      · rw [walk_edge (by omega) (by omega), hbit]
        simp only
        rw [show (2 * 2 ^ e' + a) / 2 = 2 ^ e' + a / 2 by omega]

/-- **On the right part of a split the topmost sibling is on the left.** -/
theorem walk_right (c : α) : ∀ (init : List α) (e fn sn : Nat) (s : β), fn ≤ sn → sn < 2 ^ e →
    walk left right (2 ^ e + fn) (2 ^ e + sn) s (init ++ [c])
      = (walk left right fn sn s init).map (left · c) := by
  intro init
  induction init with
  | nil =>
      intro e fn sn s hle hlt
      by_cases hsn : sn = 0
      · obtain ⟨rfl, rfl⟩ : sn = 0 ∧ fn = 0 := ⟨hsn, by omega⟩
        exact walk_lone e s c []
      · obtain ⟨e', fn', sn', s', _, _, hstep⟩ := walk_step_below hle hlt hsn s c
        have hpos := Nat.two_pow_pos e'
        rw [List.nil_append, (hstep []).2, walk_nil (by omega), walk_nil hsn]
        rfl
  | cons d rest ih =>
      intro e fn sn s hle hlt
      by_cases hsn : sn = 0
      · obtain ⟨rfl, rfl⟩ : sn = 0 ∧ fn = 0 := ⟨hsn, by omega⟩
        rw [List.cons_append, Nat.add_zero, walk_lone, if_neg (by simp), walk_zero]
        rfl
      · obtain ⟨e', fn', sn', s', hle', hlt', hstep⟩ := walk_step_below hle hlt hsn s d
        rw [List.cons_append, (hstep _).2, (hstep _).1]
        exact ih e' fn' sn' s' hle' hlt'

/-- Below the split, a tree and its left part take the same step. -/
theorem walk_step_left {t fn sn : Nat} (hfn : fn < 2 ^ (t + 1)) (hlo : 2 ^ (t + 1) ≤ sn)
    (s : β) (d : α) :
    ∃ s', ∀ rest,
      walk left right fn sn s (d :: rest) = walk left right (fn / 2) (sn / 2) s' rest ∧
      walk left right fn (2 ^ (t + 1) - 1) s (d :: rest)
        = walk left right (fn / 2) (2 ^ t - 1) s' rest := by
  have hpos := Nat.two_pow_pos t
  rw [two_pow_succ] at hfn hlo ⊢
  have hhalf : (2 * 2 ^ t - 1) / 2 = 2 ^ t - 1 := by omega
  by_cases hodd : fn % 2 = 1
  · refine ⟨left s d, fun rest => ⟨walk_odd (by omega) hodd s d rest, ?_⟩⟩
    rw [walk_odd (by omega) hodd, hhalf]
  · refine ⟨right s d, fun rest => ⟨walk_even (by omega) (by omega) s d rest, ?_⟩⟩
    rw [walk_even (by omega) (by omega), hhalf]

/-- **On the left part of a split the topmost sibling is on the right.** -/
theorem walk_left (c : α) : ∀ (init : List α) (t fn sn : Nat) (s : β), fn < 2 ^ t →
    2 ^ t ≤ sn → sn < 2 ^ (t + 1) →
    walk left right fn sn s (init ++ [c])
      = (walk left right fn (2 ^ t - 1) s init).map (right · c) := by
  intro init t
  induction t generalizing init with
  | zero =>
      intro fn sn s hfn hlo hhi
      rw [Nat.pow_zero] at hfn hlo
      rw [two_pow_succ, Nat.pow_zero] at hhi
      obtain ⟨rfl, rfl⟩ : fn = 0 ∧ sn = 1 := ⟨by omega, by omega⟩
      cases init with
      | nil => rfl
      | cons d rest =>
          rw [List.cons_append, walk_even (by decide) (by decide)]
          have : (rest ++ [c]).isEmpty = false := by simp
          simp [this]
  | succ t ih =>
      intro fn sn s hfn hlo hhi
      have hhalf : fn / 2 < 2 ^ t ∧ 2 ^ t ≤ sn / 2 ∧ sn / 2 < 2 ^ (t + 1) := by
        rw [two_pow_succ (t + 1)] at hhi
        rw [two_pow_succ] at hfn hlo hhi ⊢
        omega
      cases init with
      | nil =>
          obtain ⟨s', hstep⟩ := @walk_step_left _ _ left right _ _ _ hfn hlo s c
          have hpos := Nat.two_pow_pos t
          rw [List.nil_append, (hstep []).1, walk_nil (by omega),
            walk_nil (by rw [two_pow_succ]; omega)]
          rfl
      | cons d rest =>
          obtain ⟨s', hstep⟩ := @walk_step_left _ _ left right _ _ _ hfn hlo s d
          rw [List.cons_append, (hstep _).1, (hstep _).2]
          exact ih rest _ _ s' hhalf.1 hhalf.2.1 hhalf.2.2

/-! ### The walk and the recursion agree on every path -/

/-- Every leaf is its own block: the stopping rule of an inclusion proof. -/
def atLeaf (_ _ : Nat) : Bool := false

/-- The block is the whole prefix: the stopping rule of a consistency proof. -/
def atPrefix (n i : Nat) : Bool := n ≤ i + 1

theorem walk_eq_rebuild : ∀ (n i : Nat), i < n → ∀ (s : β) (path : List α),
    walk left right i (n - 1) s path = rebuild left right atLeaf n i s path := by
  intro n
  induction n using Nat.strong_induction_on with
  | _ n ih =>
      intro i hi s path
      by_cases hn : n ≤ 1
      · rw [rebuild_base (Or.inl hn), show n - 1 = 0 by omega, walk_zero]
      · obtain ⟨t, ht, hlo, hhi⟩ := splitPoint_spec (n := n) (by omega)
        have hlt := splitPoint_lt (n := n) (by omega)
        have hpos := splitPoint_pos n
        rw [two_pow_succ] at hhi
        rcases List.eq_nil_or_concat' path with rfl | ⟨init, c, rfl⟩
        · rw [walk_nil (by omega), rebuild_nil (by omega) rfl]
        · by_cases hk : i < splitPoint n
          · rw [rebuild_left (by omega) rfl hk, ← ih _ hlt i hk, ht]
            rw [ht] at hk
            exact walk_left c init t i (n - 1) s hk hlo (by rw [two_pow_succ]; exact hhi)
          · rw [rebuild_right (by omega) rfl hk, ← ih _ (by omega) _ (by omega), ht]
            rw [ht] at hk
            have h := @walk_right _ _ left right c init t (i - 2 ^ t)
              (n - 1 - 2 ^ t) s (by omega) (by omega)
            rw [show 2 ^ t + (i - 2 ^ t) = i by omega,
              show 2 ^ t + (n - 1 - 2 ^ t) = n - 1 by omega] at h
            rw [h, show n - 1 - 2 ^ t = n - 2 ^ t - 1 by omega]

/-- The same for a prefix of `m` leaves, from its largest complete block upwards. -/
theorem walk_shifted_eq_rebuild : ∀ (n m : Nat), 0 < m →
    m < n ∨ (m = n ∧ ∃ t, n = 2 ^ t) → ∀ (s : β) (path : List α),
    walk left right (shiftToUnset (m - 1) (n - 1)).1 (shiftToUnset (m - 1) (n - 1)).2 s path
      = rebuild left right atPrefix n (m - 1) s path := by
  intro n
  induction n using Nat.strong_induction_on with
  | _ n ih =>
      intro m hm hmn s path
      rcases hmn with hlt | ⟨rfl, t, rfl⟩
      · have hgo : atPrefix n (m - 1) = false := by simp [atPrefix]; omega
        obtain ⟨t, ht, hlo, hhi⟩ := splitPoint_spec (n := n) (by omega)
        have hk := splitPoint_lt (n := n) (by omega)
        have hpos := splitPoint_pos n
        by_cases hleft : m - 1 < splitPoint n
        · have hpart := ih _ hk m hm (by
            rcases Nat.lt_or_ge m (splitPoint n) with h | h
            · exact Or.inl h
            · exact Or.inr ⟨by omega, t, ht⟩)
          obtain ⟨u, a', b', hwhole, hsub, ha', hlo', hhi'⟩ :=
            shiftToUnset_left t (m - 1) (n - 1) (by omega) hlo hhi
          rw [hwhole]
          have hupos := Nat.two_pow_pos u
          rcases List.eq_nil_or_concat' path with rfl | ⟨init, c, rfl⟩
          · rw [walk_nil (by omega), rebuild_nil (by omega) hgo]
          · rw [rebuild_left (by omega) hgo hleft, ← hpart, ht, hsub]
            exact walk_left c init u a' b' s ha' hlo' hhi'
        · have hpart := ih (n - splitPoint n) (by omega) (m - splitPoint n) (by omega)
            (Or.inl (by omega))
          rw [two_pow_succ] at hhi
          obtain ⟨u, a', b', hwhole, hsub, hle', hlt'⟩ :=
            shiftToUnset_right t (m - 1 - 2 ^ t) (n - 1 - 2 ^ t) (by omega) (by omega)
          rw [show 2 ^ t + (m - 1 - 2 ^ t) = m - 1 by omega,
            show 2 ^ t + (n - 1 - 2 ^ t) = n - 1 by omega] at hwhole
          rw [show m - 1 - 2 ^ t = m - splitPoint n - 1 by omega,
            show n - 1 - 2 ^ t = n - splitPoint n - 1 by omega] at hsub
          rw [hwhole]
          have hupos := Nat.two_pow_pos u
          rcases List.eq_nil_or_concat' path with rfl | ⟨init, c, rfl⟩
          · rw [walk_nil (by omega), rebuild_nil (by omega) hgo]
          · rw [rebuild_right (by omega) hgo hleft,
              show m - 1 - splitPoint n = m - splitPoint n - 1 by omega, ← hpart, hsub]
            exact walk_right c init u a' b' s hle' hlt'
      · rw [shiftToUnset_full, rebuild_base (Or.inr (by simp [atPrefix]; omega)), walk_zero]

end

end ControlPlane.Rfc9162
