/-
Merkle proofs: what a generator produces is accepted, and what is accepted binds.

Completeness is an induction over the tree, with `rebuild` unfolding one split at a
time beside the generator.

Soundness must hold for a path that nobody generated.  It rests on one property of
the node operation, that equal nodes have equal parts, and that property is never
true of a hash on all inputs.  `Binding` therefore asks it only of values that are
`ok`, and only when one of the parts is a digest.  The `Traced` carrier at the end
supplies such values: a traced value remembers which pairs were combined on the way
to it, so `ok` can say that those pairs, and no others, do not collide.
-/
import ControlPlane.Lib.Rfc9162
import Mathlib.Data.List.Forall2

namespace ControlPlane.Rfc9162

open Merkle

section
variable {α : Type} (node : α → α → α)

/-- A consistency proof with a sibling on the left: it is part of both trees. -/
def pairLeft (s : α × α) (c : α) : α × α := (node c s.1, node c s.2)

/-- A consistency proof with a sibling on the right: only the new tree has it. -/
def pairRight (s : α × α) (c : α) : α × α := (s.1, node s.2 c)

variable {node} {empty : α}

/-! ### Generated paths are accepted -/

theorem rebuild_inclusionPath : ∀ (n : Nat) (leaves : List α), leaves.length = n →
    ∀ (i : Nat) (x : α), leaves[i]? = some x →
      rebuild (fun r p => node p r) (fun r p => node r p) atLeaf n i x
          (inclusionPath node empty leaves i)
        = some (root node empty leaves) := by
  intro n
  induction n using Nat.strong_induction_on with
  | _ n ih =>
      intro leaves hlen i x hx
      obtain ⟨hi, _⟩ := List.getElem?_eq_some_iff.mp hx
      subst hlen
      by_cases hn : leaves.length ≤ 1
      · have hone : leaves = [x] := by
          match leaves, hi, hn, hx with
          | [y], hi, _, hx =>
              obtain rfl : i = 0 := by simp at hi; omega
              simpa using hx
        rw [rebuild_base (Or.inl hn), inclusionPath, if_pos hn, hone]
        simp
      · have hk := splitPoint_lt (n := leaves.length) (by omega)
        have hpos := splitPoint_pos leaves.length
        have htake : (leaves.take (splitPoint leaves.length)).length
            = splitPoint leaves.length := by
          rw [List.length_take]; omega
        have hdrop : (leaves.drop (splitPoint leaves.length)).length
            = leaves.length - splitPoint leaves.length := List.length_drop
        rw [root_split leaves (by omega)]
        by_cases hleft : i < splitPoint leaves.length
        · rw [inclusionPath_left (by omega) hleft, rebuild_left (by omega) rfl hleft,
            ih _ hk _ htake i x (by rw [List.getElem?_take_of_lt hleft]; exact hx)]
          rfl
        · rw [inclusionPath_right (by omega) hleft, rebuild_right (by omega) rfl hleft,
            ih _ (by omega) _ hdrop (i - splitPoint leaves.length) x (by
              rw [List.getElem?_drop, show splitPoint leaves.length
                + (i - splitPoint leaves.length) = i by omega]
              exact hx)]
          rfl

theorem rebuild_consistencyPath : ∀ (n : Nat) (leaves : List α), leaves.length = n →
    ∀ m, 0 < m → m ≤ n →
      ∃ b tail, consistencyPath node empty m leaves false = b :: tail ∧
        rebuild (pairLeft node) (pairRight node) atPrefix n (m - 1) (b, b) tail
          = some (root node empty (leaves.take m), root node empty leaves) := by
  intro n
  induction n using Nat.strong_induction_on with
  | _ n ih =>
      intro leaves hlen m hm hmn
      subst hlen
      rcases Nat.lt_or_eq_of_le hmn with hlt | rfl
      · have hgo : atPrefix leaves.length (m - 1) = false := by simp [atPrefix]; omega
        have hk := splitPoint_lt (n := leaves.length) (by omega)
        have hpos := splitPoint_pos leaves.length
        have htake : (leaves.take (splitPoint leaves.length)).length
            = splitPoint leaves.length := by
          rw [List.length_take]; omega
        have hdrop : (leaves.drop (splitPoint leaves.length)).length
            = leaves.length - splitPoint leaves.length := List.length_drop
        by_cases hleft : m ≤ splitPoint leaves.length
        · obtain ⟨b, tail, hpath, hroots⟩ := ih _ hk _ htake m hm hleft
          refine ⟨b, tail ++ [root node empty (leaves.drop (splitPoint leaves.length))], ?_, ?_⟩
          · rw [consistencyPath_left hlt hm hleft, hpath]
            rfl
          · rw [rebuild_left (by omega) hgo (by omega), hroots, List.take_take,
              Nat.min_eq_left hleft, root_split leaves (by omega)]
            rfl
        · obtain ⟨b, tail, hpath, hroots⟩ := ih _ (by omega) _ hdrop
            (m - splitPoint leaves.length) (by omega) (by omega)
          refine ⟨b, tail ++ [root node empty (leaves.take (splitPoint leaves.length))], ?_, ?_⟩
          · rw [consistencyPath_right hlt hleft, hpath]
            rfl
          · rw [rebuild_right (by omega) hgo (by omega),
              show m - 1 - splitPoint leaves.length = m - splitPoint leaves.length - 1 by omega,
              hroots, root_take_split (by omega) hmn, root_split leaves (by omega)]
            rfl
      · refine ⟨root node empty leaves, [], ?_, ?_⟩
        · rw [consistencyPath_whole (le_refl _)]
          rfl
        · rw [rebuild_base (Or.inr (by simp [atPrefix]; omega)), List.take_length]
          rfl

/-- **A generated inclusion path leads from the leaf to the root.** -/
theorem inclusionRoot_inclusionPath {leaves : List α} {i : Nat} {x : α}
    (hx : leaves[i]? = some x) :
    inclusionRoot node i leaves.length x (inclusionPath node empty leaves i)
      = some (root node empty leaves) := by
  obtain ⟨hi, _⟩ := List.getElem?_eq_some_iff.mp hx
  rw [inclusionRoot, if_neg (by omega), walk_eq_rebuild _ _ hi]
  exact rebuild_inclusionPath _ leaves rfl i x hx

theorem consistencyPath_ne_nil {leaves : List α} {m : Nat} (hm : 0 < m)
    (hlt : m < leaves.length) : consistencyPath node empty m leaves true ≠ [] := by
  by_cases hleft : m ≤ splitPoint leaves.length
  · rw [consistencyPath_left hlt hm hleft]
    simp
  · rw [consistencyPath_right hlt hleft]
    simp

/-- The verifier starts from the path that has the prefix root in it. -/
theorem consistencyPath_start {leaves : List α} {m : Nat} (hm : 0 < m)
    (hlt : m < leaves.length) :
    (if isPowerOfTwo m then
        root node empty (leaves.take m) :: consistencyPath node empty m leaves true
      else consistencyPath node empty m leaves true)
      = consistencyPath node empty m leaves false := by
  rw [consistencyPath_known _ leaves rfl m hm hlt]
  simp only [isPowerOfTwo, decide_eq_true_eq]

/-- **A generated consistency path leads to both roots.** -/
theorem consistencyRoots_consistencyPath {leaves : List α} {m : Nat} (hm : 0 < m)
    (hlt : m < leaves.length) :
    consistencyRoots node m leaves.length (root node empty (leaves.take m))
        (consistencyPath node empty m leaves true)
      = some (root node empty (leaves.take m), root node empty leaves) := by
  obtain ⟨b, tail, hpath, hroots⟩ := @rebuild_consistencyPath α node empty
    leaves.length leaves rfl m hm (by omega)
  rw [consistencyRoots, if_neg (by simpa using consistencyPath_ne_nil hm hlt),
    consistencyPath_start hm hlt, hpath]
  rw [← walk_shifted_eq_rebuild _ _ hm (Or.inl hlt)] at hroots
  exact hroots

/-! ### Accepted paths bind -/

/--
When equal nodes have equal parts.  `ok` limits this to values whose construction is
known, and `digest` marks the values whose place inside a node can be told.
-/
structure Binding (node : α → α → α) (ok digest : α → Prop) (same : α → α → Prop) : Prop where
  /-- Being the same value is an equivalence. -/
  equivalence : Equivalence same
  /-- Whether a value is a digest depends on the value only. -/
  digestSame : ∀ {a b}, same a b → digest a → digest b
  /-- Nodes are digests. -/
  digestNode : ∀ a b, digest (node a b)
  /-- The parts of a known node are known. -/
  okNode : ∀ {a b}, ok (node a b) → ok a ∧ ok b
  /-- A node over two digests determines both from either. -/
  cancel : ∀ {a b c d}, ok (node a b) → ok (node c d) → same (node a b) (node c d) →
    digest c → digest d → digest a ∨ digest b → same a c ∧ same b d

namespace Binding

variable {ok digest : α → Prop} {same : α → α → Prop} (B : Binding node ok digest same)

include B

/-- The root over digests is a digest. -/
theorem digest_root (leaves : List α) (hempty : digest empty) (h : ∀ x ∈ leaves, digest x) :
    digest (root node empty leaves) := by
  by_cases hn : leaves.length ≤ 1
  · match leaves, hn, h with
    | [], _, _ => rwa [root_nil]
    | [x], _, h => rw [root_singleton]; exact h x (by simp)
  · rw [root_split leaves (by omega)]
    exact B.digestNode _ _

/-- **Trees of one size with the same root have the same leaves.** -/
theorem root_injective (empty : α) (hempty : digest empty) : ∀ (n : Nat) (l l' : List α), l.length = n →
    l'.length = n → (∀ x ∈ l, digest x) → (∀ x ∈ l', digest x) →
    ok (root node empty l) → ok (root node empty l') →
    same (root node empty l) (root node empty l') → List.Forall₂ same l l' := by
  intro n
  induction n using Nat.strong_induction_on with
  | _ n ih =>
      intro l l' hl hl' hd hd' hok hok' hsame
      by_cases hn : n ≤ 1
      · match l, l', hl, hl', hn, hsame with
        | [], [], _, _, _, _ => exact .nil
        | [x], [y], _, _, _, hsame =>
            rw [root_singleton, root_singleton] at hsame
            exact .cons hsame .nil
        | [], _ :: _, hl, hl', _, _ => simp at hl hl'; omega
        | _ :: _, [], hl, hl', _, _ => simp at hl hl'; omega
        | _ :: _ :: _, _, hl, _, hn, _ => simp at hl; omega
        | _, _ :: _ :: _, _, hl', hn, _ => simp at hl'; omega
      · have hk := splitPoint_lt (n := n) (by omega)
        have hpos := splitPoint_pos n
        rw [root_split l (by omega), hl] at hok hsame
        rw [root_split l' (by omega), hl'] at hok' hsame
        obtain ⟨hokl, hokr⟩ := B.okNode hok
        obtain ⟨hokl', hokr'⟩ := B.okNode hok'
        have hleft := B.digest_root (l.take (splitPoint n)) hempty
          fun x hx => hd x (List.mem_of_mem_take hx)
        have hleft' := B.digest_root (l'.take (splitPoint n)) hempty
          fun x hx => hd' x (List.mem_of_mem_take hx)
        have hright' := B.digest_root (l'.drop (splitPoint n)) hempty
          fun x hx => hd' x (List.mem_of_mem_drop hx)
        obtain ⟨hsl, hsr⟩ := B.cancel hok hok' hsame hleft' hright' (Or.inl hleft)
        have hfirst := ih _ hk (l.take (splitPoint n)) (l'.take (splitPoint n))
          (by rw [List.length_take]; omega) (by rw [List.length_take]; omega)
          (fun x hx => hd x (List.mem_of_mem_take hx))
          (fun x hx => hd' x (List.mem_of_mem_take hx)) hokl hokl' hsl
        have hrest := ih (n - splitPoint n) (by omega) (l.drop (splitPoint n))
          (l'.drop (splitPoint n))
          (by rw [List.length_drop, hl]) (by rw [List.length_drop, hl'])
          (fun x hx => hd x (List.mem_of_mem_drop hx))
          (fun x hx => hd' x (List.mem_of_mem_drop hx)) hokr hokr' hsr
        rw [← List.take_append_drop (splitPoint n) l, ← List.take_append_drop (splitPoint n) l']
        exact List.rel_append hfirst hrest

/--
**An accepted inclusion path starts at the leaf it names.**  The running value is a
digest throughout, so each node it goes into gives its parts away.
-/
theorem rebuild_inclusion_sound (empty : α) (hempty : digest empty) : ∀ (n : Nat) (l : List α),
    l.length = n → (∀ x ∈ l, digest x) → ok (root node empty l) →
    ∀ (i : Nat) (s r : α) (path : List α), i < n → digest s →
    rebuild (fun r p => node p r) (fun r p => node r p) atLeaf n i s path = some r →
    digest r ∧ (ok r → same r (root node empty l) → ∃ x, l[i]? = some x ∧ same s x) := by
  intro n
  induction n using Nat.strong_induction_on with
  | _ n ih =>
      intro l hl hd hok i s r path hi hs hrun
      by_cases hn : n ≤ 1
      · rw [rebuild_base (Or.inl hn)] at hrun
        split at hrun
        · cases hrun
          refine ⟨hs, fun _ hsame => ?_⟩
          match l, hl with
          | [x], _ =>
              rw [root_singleton] at hsame
              exact ⟨x, by rw [show i = 0 by omega]; rfl, hsame⟩
          | [], hl => simp at hl; omega
          | _ :: _ :: _, hl => simp at hl; omega
        · cases hrun
      · have hk := splitPoint_lt (n := n) (by omega)
        have hpos := splitPoint_pos n
        rw [root_split l (by omega), hl] at hok ⊢
        obtain ⟨hokl, hokr⟩ := B.okNode hok
        have hdl : ∀ x ∈ l.take (splitPoint n), digest x := fun x hx =>
          hd x (List.mem_of_mem_take hx)
        have hdr : ∀ x ∈ l.drop (splitPoint n), digest x := fun x hx =>
          hd x (List.mem_of_mem_drop hx)
        have hrootl := B.digest_root _ hempty hdl
        have hrootr := B.digest_root _ hempty hdr
        rcases List.eq_nil_or_concat' path with rfl | ⟨init, c, rfl⟩
        · rw [rebuild_nil (by omega) rfl] at hrun
          cases hrun
        · by_cases hleft : i < splitPoint n
          · rw [rebuild_left (by omega) rfl hleft] at hrun
            obtain ⟨r', hinner, rfl⟩ := Option.map_eq_some_iff.mp hrun
            obtain ⟨hr', hpart⟩ := ih _ hk (l.take (splitPoint n))
              (by rw [List.length_take]; omega) hdl hokl i s r' init hleft hs hinner
            refine ⟨B.digestNode _ _, fun hokn hsame => ?_⟩
            obtain ⟨hsl, _⟩ := B.cancel hokn hok hsame hrootl hrootr (Or.inl hr')
            obtain ⟨x, hx, hsx⟩ := hpart (B.okNode hokn).1 hsl
            rw [List.getElem?_take_of_lt hleft] at hx
            exact ⟨x, hx, hsx⟩
          · rw [rebuild_right (by omega) rfl hleft] at hrun
            obtain ⟨r', hinner, rfl⟩ := Option.map_eq_some_iff.mp hrun
            obtain ⟨hr', hpart⟩ := ih _ (by omega) (l.drop (splitPoint n))
              (by rw [List.length_drop, hl]) hdr hokr (i - splitPoint n) s r' init (by omega)
              hs hinner
            refine ⟨B.digestNode _ _, fun hokn hsame => ?_⟩
            obtain ⟨_, hsr⟩ := B.cancel hokn hok hsame hrootl hrootr (Or.inr hr')
            obtain ⟨x, hx, hsx⟩ := hpart (B.okNode hokn).2 hsr
            rw [List.getElem?_drop, show splitPoint n + (i - splitPoint n) = i by omega] at hx
            exact ⟨x, hx, hsx⟩

omit B in
/-- A walk that is not at its block yet ends with a node as the new root. -/
theorem rebuild_pair_node {n i : Nat} {s r : α × α} {path : List α} (hn : 2 ≤ n)
    (hgo : atPrefix n i = false)
    (hrun : rebuild (pairLeft node) (pairRight node) atPrefix n i s path = some r) :
    ∃ a b, r.2 = node a b := by
  rcases List.eq_nil_or_concat' path with rfl | ⟨init, c, rfl⟩
  · rw [rebuild_nil hn hgo] at hrun
    cases hrun
  · by_cases hleft : i < splitPoint n
    · rw [rebuild_left hn hgo hleft] at hrun
      obtain ⟨r', _, rfl⟩ := Option.map_eq_some_iff.mp hrun
      exact ⟨_, _, rfl⟩
    · rw [rebuild_right hn hgo hleft] at hrun
      obtain ⟨r', _, rfl⟩ := Option.map_eq_some_iff.mp hrun
      exact ⟨_, _, rfl⟩

/--
**An accepted consistency path ties a prefix to the whole.**  The starting block is
the path's own choice and need not be a digest.  It is compared with the old root
when it stands alone, and once it has gone into a node that node is one.
-/
theorem rebuild_consistency_sound (empty : α) (hempty : digest empty) : ∀ (n : Nat) (l l' : List α),
    l.length = n → 0 < l'.length → l'.length ≤ n →
    (∀ x ∈ l, digest x) → (∀ x ∈ l', digest x) →
    ok (root node empty l) → ok (root node empty l') →
    ∀ (b : α) (path : List α) (r : α × α),
    rebuild (pairLeft node) (pairRight node) atPrefix n (l'.length - 1) (b, b) path = some r →
    ok r.1 → ok r.2 → same r.1 (root node empty l') → same r.2 (root node empty l) →
    List.Forall₂ same l' (l.take l'.length) := by
  intro n
  induction n using Nat.strong_induction_on with
  | _ n ih =>
      intro l l' hl hpos' hle hd hd' hok hok' b path r hrun hok1 hok2 hold hnew
      rcases Nat.lt_or_eq_of_le hle with hlt | heq
      · have hgo : atPrefix n (l'.length - 1) = false := by simp [atPrefix]; omega
        have hk := splitPoint_lt (n := n) (by omega)
        have hpos := splitPoint_pos n
        rw [root_split l (by omega), hl] at hok hnew
        obtain ⟨hokl, hokr⟩ := B.okNode hok
        have hdl : ∀ x ∈ l.take (splitPoint n), digest x := fun x hx =>
          hd x (List.mem_of_mem_take hx)
        have hdr : ∀ x ∈ l.drop (splitPoint n), digest x := fun x hx =>
          hd x (List.mem_of_mem_drop hx)
        have hrootl := B.digest_root _ hempty hdl
        have hrootr := B.digest_root _ hempty hdr
        rcases List.eq_nil_or_concat' path with rfl | ⟨init, c, rfl⟩
        · rw [rebuild_nil (by omega) hgo] at hrun
          cases hrun
        · by_cases hleft : l'.length - 1 < splitPoint n
          · rw [rebuild_left (by omega) hgo hleft] at hrun
            obtain ⟨r', hinner, rfl⟩ := Option.map_eq_some_iff.mp hrun
            -- a block that stands alone is the old root, hence a digest
            have hdig : digest r'.2 := by
              by_cases hstop : splitPoint n ≤ 1 ∨ atPrefix (splitPoint n) (l'.length - 1) = true
              · rw [rebuild_base hstop] at hinner
                split at hinner
                · cases hinner
                  exact B.digestSame (B.equivalence.symm hold) (B.digest_root _ hempty hd')
                · cases hinner
              · rw [not_or, Bool.not_eq_true] at hstop
                obtain ⟨x, y, hnode⟩ := rebuild_pair_node (by omega) hstop.2 hinner
                rw [hnode]
                exact B.digestNode x y
            obtain ⟨hsl, _⟩ := B.cancel hok2 hok hnew hrootl hrootr (Or.inl hdig)
            have h := ih _ hk (l.take (splitPoint n)) l' (by rw [List.length_take]; omega)
              hpos' (by omega) hdl hd' hokl hok' b init r' hinner hok1 (B.okNode hok2).1 hold hsl
            rwa [List.take_take, Nat.min_eq_left (by omega)] at h
          · rw [rebuild_right (by omega) hgo hleft] at hrun
            obtain ⟨r', hinner, rfl⟩ := Option.map_eq_some_iff.mp hrun
            have hlt' := splitPoint_lt (n := l'.length) (by omega)
            have hstable : splitPoint l'.length = splitPoint n :=
              splitPoint_stable (by omega) (by omega)
            have hinner' : rebuild (pairLeft node) (pairRight node) atPrefix
                (n - splitPoint n) (l'.length - splitPoint n - 1) (b, b) init = some r' := by
              rw [← hinner, show l'.length - splitPoint n - 1
                = l'.length - 1 - splitPoint n by omega]
            obtain ⟨x, y, hnode⟩ := rebuild_pair_node (by omega)
              (by simp [atPrefix]; omega) hinner'
            have hdig : digest r'.2 := by
              rw [hnode]
              exact B.digestNode x y
            -- the new tree fixes the sibling first, and the sibling then fixes the old part
            obtain ⟨hcl, hsr⟩ := B.cancel hok2 hok hnew hrootl hrootr (Or.inr hdig)
            have hdc : digest c := B.digestSame (B.equivalence.symm hcl) hrootl
            rw [root_split l' (by omega), hstable] at hok' hold
            obtain ⟨hokl', hokr'⟩ := B.okNode hok'
            have hdl' : ∀ x ∈ l'.take (splitPoint n), digest x := fun x hx =>
              hd' x (List.mem_of_mem_take hx)
            have hdr' : ∀ x ∈ l'.drop (splitPoint n), digest x := fun x hx =>
              hd' x (List.mem_of_mem_drop hx)
            obtain ⟨hcl', hsr'⟩ := B.cancel hok1 hok' hold (B.digest_root _ hempty hdl')
              (B.digest_root _ hempty hdr') (Or.inl hdc)
            have hfirst := B.root_injective empty hempty (splitPoint n) (l'.take (splitPoint n))
              (l.take (splitPoint n)) (by rw [List.length_take]; omega)
              (by rw [List.length_take]; omega) hdl' hdl hokl' hokl
              (B.equivalence.trans (B.equivalence.symm hcl') hcl)
            have hrest := ih (n - splitPoint n) (by omega) (l.drop (splitPoint n))
              (l'.drop (splitPoint n)) (by rw [List.length_drop, hl])
              (by rw [List.length_drop]; omega) (by rw [List.length_drop]; omega) hdr hdr'
              hokr hokr' b init r' (by rw [List.length_drop]; exact hinner')
              (B.okNode hok1).2 (B.okNode hok2).2 hsr' hsr
            have happ : List.Forall₂ same (l'.take (splitPoint n) ++ l'.drop (splitPoint n))
                (l.take (splitPoint n)
                  ++ (l.drop (splitPoint n)).take (l'.drop (splitPoint n)).length) :=
              List.rel_append hfirst hrest
            rw [List.take_append_drop, List.length_drop] at happ
            rw [show l.take l'.length = l.take (splitPoint n)
              ++ (l.drop (splitPoint n)).take (l'.length - splitPoint n) by
                rw [← List.take_add, Nat.add_sub_cancel' (by omega)]]
            exact happ
      · -- equal sizes: the block is both trees
        rw [rebuild_base (Or.inr (by simp [atPrefix]; omega))] at hrun
        split at hrun
        · cases hrun
          rw [List.take_of_length_le (by omega)]
          exact B.root_injective empty hempty n l' l heq hl hd' hd hok' hok
            (B.equivalence.trans (B.equivalence.symm hold) hnew)
        · cases hrun

end Binding

end

/-! ### Values that remember their construction -/

/-- A value together with the pairs that were combined on the way to it. -/
structure Traced (α : Type) where
  /-- The value itself. -/
  value : α
  /-- The arguments of every node below it. -/
  pairs : List (α × α)

namespace Traced

variable {α : Type} (node : α → α → α)

/-- A value that is not a node. -/
def leaf (a : α) : Traced α := ⟨a, []⟩

/-- A node, which remembers its two arguments and what they remember. -/
def join (a b : Traced α) : Traced α :=
  ⟨node a.value b.value, (a.value, b.value) :: (a.pairs ++ b.pairs)⟩

variable {node}

@[simp] theorem value_leaf (a : α) : (leaf a).value = a := rfl

@[simp] theorem map_value_leaf (l : List α) : (l.map leaf).map value = l := by
  rw [List.map_map]
  exact List.map_id l

/--
Traced values bind as long as the pairs in `pairs` do: equal nodes over them have
equal arguments, given that a digest shows where one argument ends.
-/
theorem binding {digest : α → Prop} (pairs : Set (α × α)) (hnode : ∀ a b, digest (node a b))
    (hcancel : ∀ {a b c d}, (a, b) ∈ pairs → (c, d) ∈ pairs → node a b = node c d →
      digest c → digest d → digest a ∨ digest b → a = c ∧ b = d) :
    Binding (join node) (fun x => ∀ p ∈ x.pairs, p ∈ pairs) (fun x => digest x.value)
      (fun x y => x.value = y.value) where
  equivalence := ⟨fun _ => rfl, fun h => h.symm, fun h h' => h.trans h'⟩
  digestSame := fun h hd => by rw [← h]; exact hd
  digestNode := fun a b => hnode a.value b.value
  okNode := fun h =>
    ⟨fun p hp => h p (by simp [join, hp]), fun p hp => h p (by simp [join, hp])⟩
  cancel := fun hab hcd heq hc hd hor =>
    hcancel (hab _ (by simp [join])) (hcd _ (by simp [join])) heq hc hd hor

end Traced

/-! ### Forgetting the memory changes no result -/

section
variable {α α' β β' : Type}

theorem root_map {node : α → α → α} (node' : α' → α' → α') (f : α → α')
    (hf : ∀ a b, f (node a b) = node' (f a) (f b)) (empty : α) :
    ∀ (n : Nat) (l : List α), l.length = n →
      f (root node empty l) = root node' (f empty) (l.map f) := by
  intro n
  induction n using Nat.strong_induction_on with
  | _ n ih =>
      intro l hl
      subst hl
      by_cases hn : l.length ≤ 1
      · match l, hn with
        | [], _ => simp
        | [x], _ => simp
      · have hk := splitPoint_lt (n := l.length) (by omega)
        have hpos := splitPoint_pos l.length
        rw [root_split l (by omega), root_split (l.map f) (by simp; omega), hf,
          List.length_map, ih _ hk _ (by rw [List.length_take]; omega),
          ih (l.length - splitPoint l.length) (by omega) _ List.length_drop,
          List.map_take, List.map_drop]

theorem walk_map {left right : β → α → β} (left' right' : β' → α' → β') (f : α → α') (g : β → β')
    (hleft : ∀ s c, g (left s c) = left' (g s) (f c))
    (hright : ∀ s c, g (right s c) = right' (g s) (f c)) (path : List α) :
    ∀ (fn sn : Nat) (s : β),
      (walk left right fn sn s path).map g = walk left' right' fn sn (g s) (path.map f) := by
  induction path with
  | nil =>
      intro fn sn s
      simp only [walk, List.map_nil]
      split <;> rfl
  | cons c rest ih =>
      intro fn sn s
      simp only [walk, List.map_cons]
      split
      · rfl
      · split
        · rw [ih, hleft]
        · split
          · rw [ih, hleft]
          · rw [ih, hright]

end

section
variable {α : Type} (node : α → α → α) (empty : α)

/-- The pairs combined on the way to a root. -/
def rootPairs (leaves : List α) : List (α × α) :=
  (root (Traced.join node) (Traced.leaf empty) (leaves.map Traced.leaf)).pairs

/-- The pairs an inclusion verifier combines. -/
def inclusionPairs (leafIndex treeSize : Nat) (hash : α) (path : List α) : List (α × α) :=
  ((inclusionRoot (Traced.join node) leafIndex treeSize (Traced.leaf hash)
    (path.map Traced.leaf)).map Traced.pairs).getD []

/-- The pairs a consistency verifier combines. -/
def consistencyPairs (first second : Nat) (firstHash : α) (path : List α) : List (α × α) :=
  ((consistencyRoots (Traced.join node) first second (Traced.leaf firstHash)
    (path.map Traced.leaf)).map fun r => r.1.pairs ++ r.2.pairs).getD []

variable {node empty}

@[simp] theorem value_root (leaves : List α) :
    (root (Traced.join node) (Traced.leaf empty) (leaves.map Traced.leaf)).value
      = root node empty leaves := by
  have h := root_map node Traced.value (fun a b => show (Traced.join node a b).value = _ from rfl)
    (Traced.leaf empty) _ (leaves.map Traced.leaf) rfl
  rwa [Traced.map_value_leaf] at h

theorem inclusionRoot_traced {i n : Nat} {hash r : α} {path : List α}
    (h : inclusionRoot node i n hash path = some r) :
    ∃ t, inclusionRoot (Traced.join node) i n (Traced.leaf hash) (path.map Traced.leaf)
        = some t ∧ t.value = r ∧ inclusionPairs node i n hash path = t.pairs := by
  have hmap : (inclusionRoot (Traced.join node) i n (Traced.leaf hash)
      (path.map Traced.leaf)).map Traced.value = some r := by
    rw [← h]
    unfold inclusionRoot
    split
    · rfl
    · rw [walk_map (fun r p => node p r) (fun r p => node r p) Traced.value Traced.value
        (fun _ _ => rfl) (fun _ _ => rfl), Traced.map_value_leaf]
      rfl
  obtain ⟨t, ht, hval⟩ := Option.map_eq_some_iff.mp hmap
  exact ⟨t, ht, hval, by rw [inclusionPairs, ht]; rfl⟩

theorem consistencyRoots_traced {m n : Nat} {first : α} {r : α × α} {path : List α}
    (h : consistencyRoots node m n first path = some r) :
    ∃ t, consistencyRoots (Traced.join node) m n (Traced.leaf first) (path.map Traced.leaf)
        = some t ∧ (t.1.value, t.2.value) = r ∧
        consistencyPairs node m n first path = t.1.pairs ++ t.2.pairs := by
  have hmap : (consistencyRoots (Traced.join node) m n (Traced.leaf first)
      (path.map Traced.leaf)).map (fun t => (t.1.value, t.2.value)) = some r := by
    rw [← h]
    unfold consistencyRoots
    rw [List.isEmpty_map]
    split
    · rfl
    · have hstart : (if isPowerOfTwo m then Traced.leaf first :: path.map Traced.leaf
          else path.map Traced.leaf)
          = (if isPowerOfTwo m then first :: path else path).map Traced.leaf := by
        split <;> rfl
      rw [hstart]
      cases (if isPowerOfTwo m then first :: path else path) with
      | nil => rfl
      | cons c rest =>
          simp only [List.map_cons]
          rw [walk_map (pairLeft node) (pairRight node) Traced.value
            (fun t : Traced α × Traced α => (t.1.value, t.2.value))
            (fun _ _ => rfl) (fun _ _ => rfl), Traced.map_value_leaf]
          rfl
  obtain ⟨t, ht, hval⟩ := Option.map_eq_some_iff.mp hmap
  exact ⟨t, ht, hval, by rw [consistencyPairs, ht]; rfl⟩

/-! ### Soundness, for the values themselves -/

section
variable (digest : α → Prop)

/--
Among the pairs in `pairs`, a node determines its arguments once both of the one
side are digests and one of the other.
-/
def Cancels (node : α → α → α) (digest : α → Prop) (pairs : Set (α × α)) : Prop :=
  ∀ {a b c d}, (a, b) ∈ pairs → (c, d) ∈ pairs → node a b = node c d →
    digest c → digest d → digest a ∨ digest b → a = c ∧ b = d

private theorem eq_of_forall₂_leaf {l l' : List α}
    (h : List.Forall₂ (fun x y : Traced α => x.value = y.value)
      (l.map Traced.leaf) (l'.map Traced.leaf)) : l = l' := by
  rw [List.forall₂_map_left_iff, List.forall₂_map_right_iff] at h
  exact List.forall₂_eq_eq_eq ▸ h

private theorem digest_leaf {l : List α} (h : ∀ x ∈ l, digest x) :
    ∀ t ∈ l.map Traced.leaf, digest t.value := by
  intro t ht
  obtain ⟨x, hx, rfl⟩ := List.mem_map.mp ht
  exact h x hx

variable (hnode : ∀ a b, digest (node a b)) (hempty : digest empty)

include hnode hempty

/-- **Equal sizes and equal roots mean equal leaves.** -/
theorem root_sound {l l' : List α} (hlen : l.length = l'.length) (hd : ∀ x ∈ l, digest x)
    (hd' : ∀ x ∈ l', digest x)
    (hcancel : Cancels node digest
      {p | p ∈ rootPairs node empty l ∨ p ∈ rootPairs node empty l'})
    (hroot : root node empty l = root node empty l') : l = l' := by
  have B := Traced.binding ({p | p ∈ rootPairs node empty l
    ∨ p ∈ rootPairs node empty l'}) hnode hcancel
  apply eq_of_forall₂_leaf
  exact B.root_injective (Traced.leaf empty) hempty l.length _ _ (by simp)
    (by simp [hlen]) (digest_leaf digest hd) (digest_leaf digest hd') (fun p hp => Or.inl hp)
    (fun p hp => Or.inr hp) (by simpa using hroot)

/-- **An inclusion proof is accepted only for the leaf at its index.** -/
theorem inclusion_sound [DecidableEq α] {l : List α} {i : Nat} {hash : α} {path : List α}
    (hd : ∀ x ∈ l, digest x) (hhash : digest hash)
    (hcancel : Cancels node digest {p | p ∈ rootPairs node empty l
      ∨ p ∈ inclusionPairs node i l.length hash path})
    (haccept : verifyInclusion node i l.length hash path (root node empty l) = true) :
    l[i]? = some hash := by
  have B := Traced.binding ({p | p ∈ rootPairs node empty l
    ∨ p ∈ inclusionPairs node i l.length hash path}) hnode hcancel
  obtain ⟨t, hrun, hval, hpairs⟩ := inclusionRoot_traced (of_decide_eq_true haccept)
  unfold inclusionRoot at hrun
  split at hrun
  · cases hrun
  · rename_i hi
    rw [walk_eq_rebuild _ _ (by omega)] at hrun
    obtain ⟨_, hbind⟩ := B.rebuild_inclusion_sound (Traced.leaf empty) hempty l.length
      (l.map Traced.leaf) (by simp) (digest_leaf digest hd) (fun p hp => Or.inl hp) i
      (Traced.leaf hash) t _ (by omega) hhash hrun
    obtain ⟨x, hx, hsame⟩ := hbind (fun p hp => Or.inr (hpairs ▸ hp)) (by simpa using hval)
    rw [List.getElem?_map] at hx
    obtain ⟨y, hy, rfl⟩ := Option.map_eq_some_iff.mp hx
    rw [hy, show hash = y from hsame]

omit hnode hempty in
/-- With equal sizes every sibling is on the left, so both roots stay equal. -/
theorem walk_pair_diagonal (path : List α) : ∀ (fn : Nat) (b : α) (r : α × α),
    walk (pairLeft node) (pairRight node) fn fn (b, b) path = some r → r.1 = r.2 := by
  induction path with
  | nil =>
      intro fn b r h
      simp only [walk] at h
      split at h
      · cases h; rfl
      · cases h
  | cons c rest ih =>
      intro fn b r h
      by_cases hzero : fn = 0
      · subst hzero
        simp at h
      · have hshift : ∀ k, (shiftToSet k k).1 = (shiftToSet k k).2 := by
          intro k
          induction k using Nat.strong_induction_on with
          | _ k ihk =>
              by_cases hk : k = 0 ∨ k % 2 = 1
              · rw [shiftToSet, if_pos hk]
              · rw [shiftToSet_even (by omega) (by omega)]
                exact ihk (k / 2) (by omega)
        by_cases hodd : fn % 2 = 1
        · rw [walk_odd hzero hodd] at h
          exact ih _ _ r h
        · rw [walk_edge (by omega) (by omega), hshift] at h
          exact ih _ _ r h

omit hnode hempty in
theorem shiftToUnset_diagonal (k : Nat) : (shiftToUnset k k).1 = (shiftToUnset k k).2 := by
  induction k using Nat.strong_induction_on with
  | _ k ih =>
      by_cases hk : k % 2 = 1
      · rw [shiftToUnset_odd hk]
        exact ih (k / 2) (by omega)
      · rw [shiftToUnset_even (by omega)]

/-- **A consistency proof is accepted only between a list and its prefix.** -/
theorem consistency_sound [DecidableEq α] {l l' : List α} {path : List α}
    (hle : l'.length ≤ l.length) (hd : ∀ x ∈ l, digest x) (hd' : ∀ x ∈ l', digest x)
    (hcancel : Cancels node digest {p | p ∈ rootPairs node empty l
      ∨ p ∈ rootPairs node empty l'
      ∨ p ∈ consistencyPairs node l'.length l.length (root node empty l') path})
    (haccept : verifyConsistency node l'.length l.length (root node empty l')
      (root node empty l) path = true) :
    l' = l.take l'.length := by
  have hroots := of_decide_eq_true haccept
  rcases Nat.eq_zero_or_pos l'.length with hzero | hpos
  · rw [hzero, List.take_zero, List.length_eq_zero_iff.mp hzero]
  rcases Nat.lt_or_eq_of_le hle with hlt | heq
  · have B := Traced.binding ({p | p ∈ rootPairs node empty l
      ∨ p ∈ rootPairs node empty l'
      ∨ p ∈ consistencyPairs node l'.length l.length (root node empty l') path}) hnode hcancel
    obtain ⟨t, hrun, hval, hpairs⟩ := consistencyRoots_traced hroots
    obtain ⟨hold, hnew⟩ : t.1.value = root node empty l' ∧ t.2.value = root node empty l :=
      Prod.mk.inj hval
    unfold consistencyRoots at hrun
    split at hrun
    · cases hrun
    · split at hrun
      · cases hrun
      · have hbuild := @walk_shifted_eq_rebuild _ _ (pairLeft (Traced.join node))
          (pairRight (Traced.join node)) l.length l'.length hpos (Or.inl hlt)
        rename_i b rest _
        have hstart : rebuild (pairLeft (Traced.join node)) (pairRight (Traced.join node))
            atPrefix l.length ((l'.map Traced.leaf).length - 1) (b, b) rest = some t := by
          rw [List.length_map, ← hbuild]
          exact hrun
        have h := B.rebuild_consistency_sound (Traced.leaf empty) hempty l.length
          (l.map Traced.leaf) (l'.map Traced.leaf) (by simp) (by simpa using hpos)
          (by simpa using hle) (digest_leaf digest hd) (digest_leaf digest hd') (fun p hp => Or.inl hp)
          (fun p hp => Or.inr (Or.inl hp)) b rest t hstart
          (fun p hp => Or.inr (Or.inr (hpairs ▸ List.mem_append_left _ hp)))
          (fun p hp => Or.inr (Or.inr (hpairs ▸ List.mem_append_right _ hp)))
          (by simpa using hold) (by simpa using hnew)
        rw [List.length_map, ← List.map_take] at h
        exact eq_of_forall₂_leaf h
  · -- equal sizes: the verifier computes one root twice
    have hsame : root node empty l' = root node empty l := by
      unfold consistencyRoots at hroots
      split at hroots
      · cases hroots
      · split at hroots
        · cases hroots
        · rw [heq, shiftToUnset_diagonal] at hroots
          exact walk_pair_diagonal _ _ _ _ hroots
    rw [List.take_of_length_le (by omega)]
    exact root_sound digest hnode hempty heq hd' hd
      (fun hp hq => hcancel (hp.elim (fun h => Or.inr (Or.inl h)) Or.inl)
        (hq.elim (fun h => Or.inr (Or.inl h)) Or.inl)) hsame

end

end

end ControlPlane.Rfc9162
