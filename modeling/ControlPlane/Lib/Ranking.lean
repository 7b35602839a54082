/-
Lists in the order of a relation that says which of two elements comes before the other.

The relation need not order all elements, only those of the list at hand: what is ranked is in
order as soon as any two of them are.
-/
import Mathlib.Data.List.Sort

namespace ControlPlane

section

variable {α : Type} (before : α → α → Prop) [DecidableRel before]

/-- The list in order, its equals as they stand. -/
def ranked (l : List α) : List α := l.insertionSort fun a b => ¬ before b a

variable {before}

theorem perm_ranked (l : List α) : (ranked before l).Perm l := List.perm_insertionSort _ l

theorem mem_ranked {l : List α} {a : α} : a ∈ ranked before l ↔ a ∈ l := (perm_ranked l).mem_iff

variable (before)

/-- An element takes its place among those that are in order. -/
theorem pairwise_orderedInsert (htrans : ∀ {a b c}, before a b → before b c → before a c) {a : α} :
    ∀ {l : List α}, l.Pairwise before → (∀ b ∈ l, before a b ∨ before b a) →
      (l.orderedInsert (fun a b => ¬ before b a) a).Pairwise before := by
  intro l
  induction l with
  | nil => intro _ _; exact List.pairwise_singleton _ a
  | cons b rest ih =>
      intro hsorted htotal
      obtain ⟨hb, hrest⟩ := List.pairwise_cons.mp hsorted
      by_cases hba : before b a
      · rw [List.orderedInsert_of_not_le _ _ (not_not_intro hba)]
        refine List.pairwise_cons.mpr ⟨fun c hc => ?_, ?_⟩
        · rcases (List.mem_orderedInsert _).mp hc with rfl | hc
          · exact hba
          · exact hb c hc
        · exact ih hrest fun c hc => htotal c (List.mem_cons_of_mem _ hc)
      · rw [List.orderedInsert_cons_of_le _ _ hba]
        have hab : before a b := (htotal b List.mem_cons_self).resolve_right hba
        refine List.pairwise_cons.mpr ⟨fun c hc => ?_, hsorted⟩
        rcases List.mem_cons.mp hc with rfl | hc
        · exact hab
        · exact htrans hab (hb c hc)

/-- A list is ranked in order if any two of its elements are. -/
theorem pairwise_ranked (htrans : ∀ {a b c}, before a b → before b c → before a c) {l : List α}
    (htotal : l.Pairwise fun a b => before a b ∨ before b a) :
    (ranked before l).Pairwise before := by
  induction l with
  | nil => exact List.Pairwise.nil
  | cons a rest ih =>
      obtain ⟨ha, hrest⟩ := List.pairwise_cons.mp htotal
      have htotal' : ∀ b ∈ ranked before rest, before a b ∨ before b a :=
        fun b hb => ha b (mem_ranked.mp hb)
      exact pairwise_orderedInsert before htrans (ih hrest) htotal'

/-- Elements that are in order already stay as they are. -/
theorem filter_ranked (hasymm : ∀ {a b}, before a b → ¬ before b a) {l : List α}
    (hranked : (ranked before l).Pairwise before) (keep : α → Bool)
    (horder : l.Pairwise fun a b => keep a = true → keep b = true → before a b) :
    (ranked before l).filter keep = l.filter keep := by
  have hperm : ((ranked before l).filter keep).Perm (l.filter keep) := (perm_ranked l).filter keep
  have hantisymm : ∀ a b, a ∈ (ranked before l).filter keep → b ∈ l.filter keep →
      before a b → before b a → a = b := fun a b _ _ hab hba => absurd hba (hasymm hab)
  exact hperm.eq_of_pairwise hantisymm (hranked.filter keep) (List.pairwise_filter.mpr horder)

end

/-! ### The first of a kind -/

section

variable {α : Type} {before : α → α → Prop}

theorem least_of_passed {kind : α → Prop} {passed later : List α} {first a : α}
    (hranked : (passed ++ first :: later).Pairwise before) (hpassed : ∀ b ∈ passed, ¬ kind b)
    (ha : a ∈ passed ++ first :: later) (hkind : kind a) : a = first ∨ before first a := by
  rcases List.mem_append.mp ha with hmem | hmem
  · exact absurd hkind (hpassed a hmem)
  · rcases List.mem_cons.mp hmem with rfl | hlater
    · exact .inl rfl
    · have hrest := (List.pairwise_append.mp hranked).2.1
      exact .inr ((List.pairwise_cons.mp hrest).1 a hlater)

theorem mem_passed {passed later : List α} {first a : α}
    (hasymm : ∀ {a b}, before a b → ¬ before b a)
    (hranked : (passed ++ first :: later).Pairwise before) :
    a ∈ passed ↔ a ∈ passed ++ first :: later ∧ before a first := by
  obtain ⟨-, hrest, hcross⟩ := List.pairwise_append.mp hranked
  constructor
  · intro ha
    exact ⟨List.mem_append_left _ ha, hcross a ha first List.mem_cons_self⟩
  · rintro ⟨ha, hfirst⟩
    rcases List.mem_append.mp ha with hpassed | hmem
    · exact hpassed
    · rcases List.mem_cons.mp hmem with rfl | hlater
      · exact absurd hfirst (hasymm hfirst)
      · exact absurd hfirst (hasymm ((List.pairwise_cons.mp hrest).1 a hlater))

end

/-! ### Levels -/

section

variable {α κ : Type} [DecidableEq κ] {level : α → κ} (lower : κ → κ → Prop)

/-- Two lists in the order of their levels are the same if they agree on each level. -/
theorem eq_of_levels (hasymm : ∀ {j k}, lower j k → ¬ lower k j) :
    ∀ {l l' : List α}, (l.Pairwise fun a b => level a = level b ∨ lower (level a) (level b)) →
      (l'.Pairwise fun a b => level a = level b ∨ lower (level a) (level b)) →
      (∀ k, l.filter (level · = k) = l'.filter (level · = k)) → l = l' := by
  have hmem : ∀ {l l' : List α} {a : α},
      (∀ k, l.filter (level · = k) = l'.filter (level · = k)) → a ∈ l → a ∈ l' := by
    intro l l' a hsame ha
    have hlevel : a ∈ l.filter (level · = level a) := List.mem_filter.mpr ⟨ha, by simp⟩
    rw [hsame] at hlevel
    exact (List.mem_filter.mp hlevel).1
  intro l
  induction l with
  | nil =>
      intro l' _ _ hsame
      cases l' with
      | nil => rfl
      | cons b rest' => exact absurd (hmem (fun k => (hsame k).symm) List.mem_cons_self) (by simp)
  | cons a rest ih =>
      intro l' hl hl' hsame
      cases l' with
      | nil => exact absurd (hmem hsame List.mem_cons_self) (by simp)
      | cons b rest' =>
          obtain ⟨ha, hrest⟩ := List.pairwise_cons.mp hl
          obtain ⟨hb, hrest'⟩ := List.pairwise_cons.mp hl'
          -- neither head is lower than the other, as each stands in both lists
          have hheads : level a = level b := by
            rcases List.mem_cons.mp (hmem (fun k => (hsame k).symm) List.mem_cons_self) with
              rfl | hba
            · rfl
            · rcases List.mem_cons.mp (hmem hsame List.mem_cons_self) with rfl | hab
              · rfl
              · rcases ha b hba with heq | hlower
                · exact heq
                · exact (hb a hab).elim Eq.symm fun hlower' => absurd hlower' (hasymm hlower)
          have hhead := hsame (level b)
          rw [List.filter_cons_of_pos (by simpa using hheads),
            List.filter_cons_of_pos (by simp)] at hhead
          obtain ⟨rfl, -⟩ := List.cons.inj hhead
          refine congrArg _ (ih hrest hrest' fun k => ?_)
          have := hsame k
          by_cases hk : level a = k
          · rw [List.filter_cons_of_pos (by simpa using hk),
              List.filter_cons_of_pos (by simpa using hk)] at this
            exact (List.cons.inj this).2
          · rwa [List.filter_cons_of_neg (by simpa using hk),
              List.filter_cons_of_neg (by simpa using hk)] at this

end

end ControlPlane
