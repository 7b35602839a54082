/-
Tables that only grow.

Rows are added at the end, and a row that is there changes in the way that a relation allows.
`Extends` says so of lists, and `countP_extends` what it is for: a count of the rows is the same
later on, as long as a row that changed counts as before, and a row that was added does not count.
-/
import ControlPlane.Lib.Table
import Mathlib.Data.List.Forall2

namespace ControlPlane

variable {α β κ : Type}

/-- Elements may change as `R` allows, and others are added at the end. -/
def Extends (R : α → α → Prop) (xs ys : List α) : Prop :=
  ∃ old new, ys = old ++ new ∧ List.Forall₂ R xs old

namespace Extends

variable {R : α → α → Prop} {xs ys zs : List α}

theorem of_forall₂ (h : List.Forall₂ R xs ys) : Extends R xs ys :=
  ⟨ys, [], by simp, h⟩

theorem refl (hR : ∀ a, R a a) (xs : List α) : Extends R xs xs :=
  of_forall₂ (List.forall₂_same.mpr fun a _ => hR a)

theorem append (hR : ∀ a, R a a) (xs new : List α) : Extends R xs (xs ++ new) :=
  ⟨xs, new, rfl, List.forall₂_same.mpr fun a _ => hR a⟩

theorem trans (hR : ∀ a b c, R a b → R b c → R a c) (hxy : Extends R xs ys)
    (hyz : Extends R ys zs) : Extends R xs zs := by
  obtain ⟨old, new, rfl, hold⟩ := hxy
  obtain ⟨old', new', rfl, hold'⟩ := hyz
  -- the later list keeps the elements of the first part in front
  have hsplit := List.forall₂_take old.length hold'
  have hlength : old.length ≤ old'.length := by
    have := hold'.length_eq
    simp only [List.length_append] at this
    omega
  refine ⟨old'.take old.length, old'.drop old.length ++ new', by simp [← List.append_assoc], ?_⟩
  rw [List.take_left'] at hsplit
  · clear hold' hlength
    generalize old'.take old.length = last at hsplit
    induction hold generalizing last with
    | nil =>
        cases hsplit
        exact .nil
    | cons hab _ ih =>
        cases hsplit with
        | cons hbc hrest => exact .cons (hR _ _ _ hab hbc) (ih _ hrest)
  · rfl

end Extends

namespace Table

variable [DecidableEq κ] {key : α → κ} {R : α → α → Prop}

theorem extends_put {t : Table κ α key} {r old : α} (hR : ∀ a, R a a)
    (h : t.get? (key r) = some old) (hrow : R old r) : Extends R t.rows (t.put r).rows := by
  refine .of_forall₂ ?_
  show List.Forall₂ R t.rows (t.rows.map fun x => if key x = key r then r else x)
  rw [List.forall₂_map_right_iff, List.forall₂_same]
  intro x hx
  by_cases hkey : key x = key r
  · obtain rfl : x = old := Option.some.inj ((get?_of_mem hx).symm.trans (hkey ▸ h))
    rw [if_pos hkey]
    exact hrow
  · rw [if_neg hkey]
    exact hR x

theorem extends_insert {t t' : Table κ α key} {r : α} (hR : ∀ a, R a a)
    (h : t.insert? r = some t') : Extends R t.rows t'.rows := by
  rw [(insert?_eq_some h).2]
  exact .append hR t.rows [r]

/-- A row that is there is found again, as it has changed. -/
theorem get?_extends {s t : Table κ α key} (hkey : ∀ a b, R a b → key b = key a)
    (h : Extends R s.rows t.rows) {id : κ} {r : α} (hr : s.get? id = some r) :
    ∃ later, t.get? id = some later ∧ R r later := by
  obtain ⟨old, new, hrows, hold⟩ := h
  have hfind : ∀ {xs ys : List α}, List.Forall₂ R xs ys → r ∈ xs → ∃ later ∈ ys, R r later := by
    intro xs ys hall
    induction hall with
    | nil => exact fun h => nomatch h
    | cons hab _ ih =>
        intro hmem
        rcases List.mem_cons.mp hmem with rfl | hmem
        · exact ⟨_, List.mem_cons_self, hab⟩
        · obtain ⟨later, hlater, hgoes⟩ := ih hmem
          exact ⟨later, List.mem_cons_of_mem _ hlater, hgoes⟩
  obtain ⟨later, hlater, hgoes⟩ := hfind hold (mem_of_get? hr)
  refine ⟨later, get?_eq_some.mpr ⟨?_, ?_⟩, hgoes⟩
  · rw [hrows]
    exact List.mem_append_left _ hlater
  · exact (hkey _ _ hgoes).trans (key_of_get? hr)

/-- **As many rows have a property as before**, if a row that changes keeps it or keeps lacking it,
and no row that is added has it. -/
theorem countP_extends {s t : Table κ α key} (hkey : ∀ a b, R a b → key b = key a)
    (h : Extends R s.rows t.rows) {p q : α → Bool}
    (hold : ∀ x ∈ s.rows, ∀ y ∈ t.rows, R x y → q y = p x)
    (hnew : ∀ y ∈ t.rows, s.get? (key y) = none → q y = false) :
    t.rows.countP q = s.rows.countP p := by
  obtain ⟨old, new, hrows, hforall⟩ := h
  have hkeys : old.map key = s.rows.map key := by
    have : ∀ {xs ys : List α}, List.Forall₂ R xs ys → ys.map key = xs.map key := by
      intro xs ys hall
      induction hall with
      | nil => rfl
      | cons hab _ ih => rw [List.map_cons, List.map_cons, hkey _ _ hab, ih]
    exact this hforall
  have hfirst : old.countP q = s.rows.countP p := by
    have hall : ∀ {xs ys : List α}, List.Forall₂ R xs ys →
        (∀ x ∈ xs, ∀ y ∈ ys, R x y → q y = p x) → ys.countP q = xs.countP p := by
      intro xs ys hall
      induction hall with
      | nil => exact fun _ => rfl
      | cons hab _ ih =>
          intro hsame
          rw [List.countP_cons, List.countP_cons,
            hsame _ List.mem_cons_self _ List.mem_cons_self hab,
            ih fun x hx y hy => hsame x (List.mem_cons_of_mem _ hx) y (List.mem_cons_of_mem _ hy)]
    refine hall hforall fun x hx y hy => hold x hx y ?_
    rw [hrows]
    exact List.mem_append_left _ hy
  have hrest : new.countP q = 0 := by
    rw [List.countP_eq_zero]
    intro y hy
    have hmem : y ∈ t.rows := by
      rw [hrows]
      exact List.mem_append_right _ hy
    refine Bool.eq_false_iff.mp (hnew y hmem ?_)
    rw [get?_eq_none, ← hkeys]
    intro htaken
    have hdistinct := t.distinct
    rw [hrows, List.map_append, List.nodup_append] at hdistinct
    exact hdistinct.2.2 _ htaken _ (List.mem_map_of_mem hy) rfl
  rw [hrows, List.countP_append, hfirst, hrest, Nat.add_zero]

end Table

end ControlPlane
