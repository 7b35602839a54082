/-
Calls that play moves of a smaller machine.

Often a property is about a small part of the store, its `view`, and what a call does to that
part is one of a few moves, depending on the position the call has come to.  `Plays` checks
window by window that a program plays such moves, in any store, so that nothing has to be said
about the other calls.  What every move keeps is then kept by every run: `Playing.run` of calls
that overlap, `Plays.cut` of a call that is alone and may die at any point.
-/
import ControlPlane.Lib.Sequential
import Mathlib.Logic.Function.Basic

namespace ControlPlane

namespace Prog

variable {σ ε α β ν η : Type}

/-- The store after at most this many windows of a program that is alone. -/
def cut : Nat → Prog σ ε α → σ → σ
  | 0, _, s => s
  | _ + 1, ret _, s => s
  | _ + 1, raise _, s => s
  | n + 1, window ready act next, s => if ready s then cut n (next s) (act s) else s

/-- From position `h` on every window is a move, and the program ends in a position as `Q`
says. -/
def Plays (view : σ → ν) (Move : η → ν → η → ν → Prop) (Q : Except ε α → η → Prop) :
    η → Prog σ ε α → Prop
  | h, ret a => Q (.ok a) h
  | h, raise e => Q (.error e) h
  | h, window ready act next => ∀ s, ready s = true →
      ∃ h', Move h (view s) h' (view (act s)) ∧ Plays view Move Q h' (next s)

namespace Plays

variable {view : σ → ν} {Move : η → ν → η → ν → Prop}

theorem mono {Q Q' : Except ε α → η → Prop} (hq : ∀ r h, Q r h → Q' r h) :
    ∀ {p : Prog σ ε α} {h : η}, Plays view Move Q h p → Plays view Move Q' h p
  | .ret _, _, hp => hq _ _ hp
  | .raise _, _, hp => hq _ _ hp
  | .window .., _, hp => by
      intro s hready
      obtain ⟨h', hmove, hnext⟩ := hp s hready
      exact ⟨h', hmove, mono hq hnext⟩

/-- The sequence of two programs. -/
theorem bind {R : Except ε β → η → Prop} {f : α → Prog σ ε β} :
    ∀ {p : Prog σ ε α} {h : η},
      Plays view Move (fun r h => match r with
        | .ok a => Plays view Move R h (f a)
        | .error e => R (.error e) h) h p → Plays view Move R h (p >>= f)
  | .ret _, _, hp => hp
  | .raise _, _, hp => hp
  | .window .., _, hp => by
      intro s hready
      obtain ⟨h', hmove, hnext⟩ := hp s hready
      exact ⟨h', hmove, bind hnext⟩

/-- A program whose value is wrapped. -/
theorem map {R : Except ε β → η → Prop} {f : α → β} {p : Prog σ ε α} {h : η}
    (hp : Plays view Move (fun r h => R (r.map f) h) h p) :
    Plays view Move R h (p >>= fun a => ret (f a)) := by
  refine bind (mono ?_ hp)
  intro r h hr
  cases r with
  | ok a => exact hr
  | error e => exact hr

/-- Exceptions that are returned. -/
theorem attempt {R : Except ε (Except ε α) → η → Prop} :
    ∀ {p : Prog σ ε α} {h : η}, Plays view Move (fun r h => R (.ok r) h) h p →
      Plays view Move R h p.attempt
  | .ret _, _, hp => hp
  | .raise _, _, hp => hp
  | .window .., _, hp => by
      intro s hready
      obtain ⟨h', hmove, hnext⟩ := hp s hready
      exact ⟨h', hmove, attempt hnext⟩

/-- A window that only looks, before the rest. -/
theorem read_bind {R : Except ε β → η → Prop} {g : σ → α} {f : α → Prog σ ε β} {h : η}
    (hstay : ∀ v, Move h v h v) (hf : ∀ s, Plays view Move R h (f (g s))) :
    Plays view Move R h (Prog.read g >>= f) := by
  intro s _
  exact ⟨h, hstay (view s), hf s⟩

/-- A window that never raises, before the rest. -/
theorem update_bind {R : Except ε β → η → Prop} {g : σ → α × σ} {f : α → Prog σ ε β} {h : η}
    (hg : ∀ s, ∃ h', Move h (view s) h' (view (g s).2) ∧ Plays view Move R h' (f (g s).1)) :
    Plays view Move R h (Prog.update g >>= f) := by
  intro s _
  exact hg s

/-- **What every move keeps is kept by a program that is alone, wherever it stops.** -/
theorem cut {Q : Except ε α → η → Prop} {I : η → ν → Prop}
    (hmove : ∀ h v h' v', I h v → Move h v h' v' → I h' v') (n : Nat) :
    ∀ {p : Prog σ ε α} {h : η} {s : σ}, Plays view Move Q h p → I h (view s) →
      ∃ h', I h' (view (p.cut n s)) := by
  induction n with
  | zero =>
      intro p h s _ hI
      exact ⟨h, hI⟩
  | succ n ih =>
      intro p h s hp hI
      cases p with
      | ret a => exact ⟨h, hI⟩
      | raise e => exact ⟨h, hI⟩
      | window ready act next =>
          unfold Prog.cut
          by_cases hready : ready s = true
          · rw [if_pos hready]
            obtain ⟨h', hmoved, hnext⟩ := hp s hready
            exact ih hnext (hmove h (view s) h' _ hI hmoved)
          · rw [if_neg hready]
            exact ⟨h, hI⟩

end Plays

end Prog

/-! ### Calls that overlap -/

variable {σ ε α κ τ ν η : Type}

/-- Every call of a configuration plays on from its position, and those that have not been made
are at the start. -/
structure Playing (view : σ → ν) (Move : Nat → η → ν → η → ν → Prop) (start : η)
    (c : Config σ ε α κ) (positions : Nat → η) : Prop where
  calls : ∀ i call p, c.calls[i]? = some (call, p) →
    Prog.Plays view (Move i) (fun _ _ => True) (positions i) p
  unmade : ∀ i, c.calls.length ≤ i → positions i = start

namespace Playing

variable {view : σ → ν} {Move : Nat → η → ν → η → ν → Prop} {start : η}
  {body : Nat → κ → Prog σ ε α} {environment : τ → σ → σ} {I : (Nat → η) → ν → Prop}

theorem initial (s : σ) :
    Playing view Move start (Config.initial s : Config σ ε α κ) (fun _ => start) where
  calls := by
    intro i call p h
    simp [Config.initial] at h
  unmade := fun _ _ => rfl

theorem step (hbody : ∀ i call, Prog.Plays view (Move i) (fun _ _ => True) start (body i call))
    (henv : ∀ e s, view (environment e s) = view s)
    (hmove : ∀ positions v i h v', I positions v → Move i (positions i) v h v' →
      I (Function.update positions i h) v')
    {c : Config σ ε α κ} {positions : Nat → η} (hc : Playing view Move start c positions)
    (hI : I positions (view c.store)) (event : Event κ τ) :
    ∃ positions', Playing view Move start (c.step body environment event) positions' ∧
      I positions' (view (c.step body environment event).store) := by
  cases event with
  | start call =>
      refine ⟨positions, ⟨?_, ?_⟩, hI⟩
      · intro i call' p h
        change (c.calls ++ _)[i]? = _ at h
        by_cases hi : i < c.calls.length
        · rw [List.getElem?_append_left hi] at h
          exact hc.calls i call' p h
        · rw [List.getElem?_append_right (by omega), List.getElem?_singleton] at h
          by_cases hlast : i - c.calls.length = 0
          · simp only [hlast, if_true, Option.some.injEq, Prod.mk.injEq] at h
            obtain ⟨rfl, rfl⟩ := h
            rw [hc.unmade i (by omega), show i = c.calls.length by omega]
            exact hbody _ call
          · simp [hlast] at h
      · intro i hi
        change (c.calls ++ _).length ≤ i at hi
        rw [List.length_append] at hi
        exact hc.unmade i (by omega)
  | environment e =>
      refine ⟨positions, ⟨hc.calls, hc.unmade⟩, ?_⟩
      show I positions (view (environment e c.store))
      rw [henv e c.store]
      exact hI
  | resume i =>
      show ∃ positions', Playing view Move start (c.resume i) positions' ∧
        I positions' (view (c.resume i).store)
      obtain hsame | ⟨call, ready, act, next, hcall, hready, hmoved⟩ := Config.resume_cases c i
      · rw [hsame]
        exact ⟨positions, hc, hI⟩
      · obtain ⟨h, hplayed, hnext⟩ := hc.calls i call _ hcall c.store hready
        have hlt : i < c.calls.length := (List.getElem?_eq_some_iff.mp hcall).1
        rw [hmoved]
        refine ⟨Function.update positions i h, ⟨?_, ?_⟩, hmove _ _ i h _ hI hplayed⟩
        · intro j call' p hj
          by_cases hij : i = j
          · subst hij
            rw [List.getElem?_set_self hlt] at hj
            obtain ⟨-, rfl⟩ := Prod.mk.inj (Option.some.inj hj)
            rw [Function.update_self]
            exact hnext
          · rw [List.getElem?_set_ne hij] at hj
            rw [Function.update_of_ne (Ne.symm hij)]
            exact hc.calls j call' p hj
        · intro j hj
          rw [List.length_set] at hj
          rw [Function.update_of_ne (by omega)]
          exact hc.unmade j hj

/-- **What every move keeps is kept by every run of calls that overlap.** -/
theorem run (hbody : ∀ i call, Prog.Plays view (Move i) (fun _ _ => True) start (body i call))
    (henv : ∀ e s, view (environment e s) = view s)
    (hmove : ∀ positions v i h v', I positions v → Move i (positions i) v h v' →
      I (Function.update positions i h) v') (events : List (Event κ τ)) :
    ∀ {c : Config σ ε α κ} {positions : Nat → η}, Playing view Move start c positions →
      I positions (view c.store) →
      ∃ positions', Playing view Move start (c.runAll body environment events) positions' ∧
        I positions' (view (c.runAll body environment events).store) := by
  induction events with
  | nil =>
      intro c positions hc hI
      exact ⟨positions, hc, hI⟩
  | cons event rest ih =>
      intro c positions hc hI
      obtain ⟨positions', hc', hI'⟩ := step hbody henv hmove hc hI event
      exact ih hc' hI'

end Playing

end ControlPlane
