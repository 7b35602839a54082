/-
Inverting programs that may raise.

A `do` block that returned ran every one of its lines.  `bind_eq_ok` takes the first
line off a block, so a proof about a long block is a list of `obtain`s in the order of
its lines, and never unfolds the block.
-/
import Mathlib.Logic.Basic

namespace ControlPlane

variable {ε α β : Type}

/-- A block that returned ran its first line, and the rest on that line's value. -/
theorem bind_eq_ok {x : Except ε α} {f : α → Except ε β} {b : β}
    (h : (x >>= f) = .ok b) : ∃ a, x = .ok a ∧ f a = .ok b := by
  cases x with
  | error e => cases h
  | ok a => exact ⟨a, rfl, h⟩

/-- A check that raises, in front of a block that returned, was not met. -/
theorem check_eq_ok {p : Prop} [Decidable p] {e : ε} {x : Except ε β} {b : β}
    (h : (if p then .error e else x) = .ok b) : ¬ p ∧ x = .ok b := by
  by_cases hp : p
  · rw [if_pos hp] at h
    cases h
  · rw [if_neg hp] at h
    exact ⟨hp, h⟩

/-- A loop that returned did so at each item. -/
theorem mapM_eq_ok {f : α → Except ε β} {as : List α} : ∀ {bs : List β},
    as.mapM f = .ok bs → as.map f = bs.map .ok := by
  induction as with
  | nil =>
      intro bs h
      cases h
      rfl
  | cons a rest ih =>
      intro bs h
      rw [List.mapM_cons] at h
      obtain ⟨b, hb, h⟩ := bind_eq_ok h
      obtain ⟨found, hrest, h⟩ := bind_eq_ok h
      cases h
      rw [List.map_cons, List.map_cons, hb, ih hrest]

/-- What a loop that returned has is what it made of an item. -/
theorem mem_of_mapM {f : α → Except ε β} {as : List α} {bs : List β} (h : as.mapM f = .ok bs)
    (b : β) : b ∈ bs ↔ ∃ a ∈ as, f a = .ok b := by
  have hmem : .ok b ∈ as.map f ↔ .ok b ∈ bs.map (Except.ok (ε := ε)) := by rw [mapM_eq_ok h]
  simpa using hmem.symm

/-- A loop returns exactly if it does so at each item. -/
theorem mapM_isOk {f : α → Except ε β} {as : List α} :
    (∃ bs, as.mapM f = .ok bs) ↔ ∀ a ∈ as, ∃ b, f a = .ok b := by
  constructor
  · rintro ⟨bs, hbs⟩ a ha
    have hmem : f a ∈ bs.map Except.ok := mapM_eq_ok hbs ▸ List.mem_map_of_mem ha
    obtain ⟨b, -, hb⟩ := List.mem_map.mp hmem
    exact ⟨b, hb.symm⟩
  · intro h
    induction as with
    | nil => exact ⟨[], rfl⟩
    | cons a rest ih =>
        obtain ⟨b, hb⟩ := h a List.mem_cons_self
        obtain ⟨bs, hbs⟩ := ih fun a ha => h a (List.mem_cons_of_mem _ ha)
        exact ⟨b :: bs, by rw [List.mapM_cons, hb, hbs]; rfl⟩

end ControlPlane
