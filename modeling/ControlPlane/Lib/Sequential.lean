/-
A call that has the store to itself.

`alone` runs a program to its end with nobody in between.  `Ensures Q` is its weakest
precondition: the program never waits for another call, and returns only as `Q` says.
The rules below unfold a program window by window, so that a specification is proved by
following the source from top to bottom.
-/
import ControlPlane.Lib.Concurrent
import ControlPlane.Lib.Looking

namespace ControlPlane

namespace Prog

variable {σ ε α β : Type}

/-- The result of a program that runs alone, unless it waits for ever. -/
def alone : Prog σ ε α → σ → Option (Except ε α × σ)
  | ret a, s => some (.ok a, s)
  | raise e, s => some (.error e, s)
  | window ready act next, s => if ready s then alone (next s) (act s) else none

/-- The second part runs alone where the first has returned. -/
theorem alone_bind {f : α → Prog σ ε β} : ∀ {p : Prog σ ε α} {s t : σ} {a : α},
    p.alone s = some (.ok a, t) → (p >>= f).alone s = (f a).alone t
  | .ret _, _, _, _, h => by
      cases h
      rfl
  | .raise _, _, _, _, h => nomatch h
  | .window ready act next, s, t, a, h => by
      unfold alone at h
      by_cases hready : ready s = true
      · rw [if_pos hready] at h
        show (if ready s = true then (next s >>= f).alone (act s) else none) = _
        rw [if_pos hready]
        exact alone_bind h
      · rw [if_neg hready] at h
        cases h

/-- The second part does not run where the first raises. -/
theorem alone_bind_error {f : α → Prog σ ε β} : ∀ {p : Prog σ ε α} {s t : σ} {e : ε},
    p.alone s = some (.error e, t) → (p >>= f).alone s = some (.error e, t)
  | .ret _, _, _, _, h => nomatch h
  | .raise _, _, _, _, h => by
      cases h
      rfl
  | .window ready act next, s, t, e, h => by
      unfold alone at h
      by_cases hready : ready s = true
      · rw [if_pos hready] at h
        show (if ready s = true then (next s >>= f).alone (act s) else none) = _
        rw [if_pos hready]
        exact alone_bind_error h
      · rw [if_neg hready] at h
        cases h

theorem alone_read_bind (g : σ → α) (f : α → Prog σ ε β) (s : σ) :
    (Prog.read g >>= f).alone s = (f (g s)).alone s := rfl

theorem alone_update_bind (g : σ → α × σ) (f : α → Prog σ ε β) (s : σ) :
    (Prog.update g >>= f).alone s = (f (g s).1).alone (g s).2 := rfl

/-- What runs after a part with this result. -/
def aloneAfter (f : α → Prog σ ε β) (s : σ) : Except ε α → Option (Except ε β × σ)
  | .ok a => (f a).alone s
  | .error e => some (.error e, s)

/-- After a part that changes nothing, its result decides. -/
theorem alone_look_bind {p : Prog σ ε α} {s : σ} {r : Except ε α} (h : p.alone s = some (r, s))
    (f : α → Prog σ ε β) : (p >>= f).alone s = aloneAfter f s r := by
  cases r with
  | ok a => exact alone_bind h
  | error e => exact alone_bind_error h

theorem alone_ofExcept (x : Except ε α) (s : σ) : (Prog.ofExcept x).alone s = some (x, s) := by
  cases x <;> rfl

/-- A window that commits or rolls back. -/
theorem alone_transaction (g : σ → Except ε (α × σ)) (s : σ) :
    (Prog.transaction g).alone s = match g s with
      | .ok (a, t) => some (.ok a, t)
      | .error e => some (.error e, s) := by
  show (if true = true then (Prog.outcome g s).alone (Prog.commit g s) else none) = _
  rw [if_pos rfl]
  unfold Prog.outcome Prog.commit
  cases g s with
  | ok pair => rfl
  | error e => rfl

/-- A program on a part of the store runs there as it does alone. -/
theorem alone_within {τ : Type} {get : τ → σ} {set : τ → σ → τ} (hget : ∀ t s, get (set t s) = s)
    (hset : ∀ t s s', set (set t s) s' = set t s') (hself : ∀ t, set t (get t) = t) :
    ∀ {p : Prog σ ε α} {t : τ} {s : σ} {r : Except ε α}, p.alone (get t) = some (r, s) →
      (p.within get set).alone t = some (r, set t s)
  | .ret _, t, _, _, h => by
      cases h
      rw [hself]
      rfl
  | .raise _, t, _, _, h => by
      cases h
      rw [hself]
      rfl
  | .window ready act next, t, s, r, h => by
      unfold alone at h
      by_cases hready : ready (get t) = true
      · rw [if_pos hready] at h
        show (if ready (get t) = true then ((next (get t)).within get set).alone
          (set t (act (get t))) else none) = _
        rw [if_pos hready]
        rw [← hget t (act (get t))] at h
        rw [alone_within hget hset hself h, hset]
      · rw [if_neg hready] at h
        cases h

/-- Alone in store `s`, the program returns, and as `Q` says. -/
def Ensures (Q : Except ε α → σ → Prop) : Prog σ ε α → σ → Prop
  | ret a, s => Q (.ok a) s
  | raise e, s => Q (.error e) s
  | window ready act next, s => ready s = true ∧ Ensures Q (next s) (act s)

namespace Ensures

variable {Q : Except ε α → σ → Prop} {s : σ}

/-- What `Ensures` says about the run. -/
theorem alone_eq : ∀ {p : Prog σ ε α} {s : σ}, Ensures Q p s →
    ∃ r t, p.alone s = some (r, t) ∧ Q r t
  | .ret a, s, h => ⟨.ok a, s, rfl, h⟩
  | .raise e, s, h => ⟨.error e, s, rfl, h⟩
  | .window ready act next, s, h => by
      obtain ⟨r, t, halone, hq⟩ := alone_eq h.2
      refine ⟨r, t, ?_, hq⟩
      unfold alone
      rw [if_pos h.1]
      exact halone

/-- The result that a run had is as `Q` says. -/
theorem of_alone {p : Prog σ ε α} {r : Except ε α} {t : σ} (h : Ensures Q p s)
    (halone : p.alone s = some (r, t)) : Q r t := by
  obtain ⟨r', t', halone', hq⟩ := alone_eq h
  obtain ⟨rfl, rfl⟩ := Prod.mk.inj (Option.some.inj (halone.symm.trans halone'))
  exact hq

theorem mono {Q' : Except ε α → σ → Prop} (hq : ∀ r t, Q r t → Q' r t) :
    ∀ {p : Prog σ ε α} {s : σ}, Ensures Q p s → Ensures Q' p s
  | .ret _, _, h => hq _ _ h
  | .raise _, _, h => hq _ _ h
  | .window .., _, h => ⟨h.1, mono hq h.2⟩

/-- Two postconditions are met together. -/
theorem and {Q' : Except ε α → σ → Prop} : ∀ {p : Prog σ ε α} {s : σ}, Ensures Q p s →
    Ensures Q' p s → Ensures (fun r t => Q r t ∧ Q' r t) p s
  | .ret _, _, h, h' => ⟨h, h'⟩
  | .raise _, _, h, h' => ⟨h, h'⟩
  | .window .., _, h, h' => ⟨h.1, and h.2 h'.2⟩

/-- The sequence of two programs. -/
theorem bind {R : Except ε β → σ → Prop} {f : α → Prog σ ε β} :
    ∀ {p : Prog σ ε α} {s : σ},
      Ensures (fun r t => match r with
        | .ok a => Ensures R (f a) t
        | .error e => R (.error e) t) p s → Ensures R (p >>= f) s
  | .ret _, _, h => h
  | .raise _, _, h => h
  | .window .., _, h => ⟨h.1, bind h.2⟩

/-- A program whose value is wrapped. -/
theorem map {R : Except ε β → σ → Prop} {f : α → β} {p : Prog σ ε α}
    (h : Ensures (fun r t => R (r.map f) t) p s) : Ensures R (p >>= fun a => ret (f a)) s := by
  refine bind (mono ?_ h)
  intro r t hr
  cases r with
  | ok a => exact hr
  | error e => exact hr

/-- A choice that does not look at the store. -/
theorem ite {c : Prop} [Decidable c] {p q : Prog σ ε α} (hpos : c → Ensures Q p s)
    (hneg : ¬ c → Ensures Q q s) : Ensures Q (if c then p else q) s := by
  by_cases hc : c
  · rw [if_pos hc]
    exact hpos hc
  · rw [if_neg hc]
    exact hneg hc

/-- A window that only looks, before the rest. -/
theorem read_bind {R : Except ε β → σ → Prop} {g : σ → α} {f : α → Prog σ ε β}
    (h : Ensures R (f (g s)) s) : Ensures R (Prog.read g >>= f) s :=
  ⟨rfl, h⟩

/-- A window that never raises, before the rest. -/
theorem update_bind {R : Except ε β → σ → Prop} {g : σ → α × σ} {f : α → Prog σ ε β}
    (h : Ensures R (f (g s).1) (g s).2) : Ensures R (Prog.update g >>= f) s :=
  ⟨rfl, h⟩

/-- A window that commits or rolls back. -/
theorem transaction {g : σ → Except ε (α × σ)} (hok : ∀ a t, g s = .ok (a, t) → Q (.ok a) t)
    (herror : ∀ e, g s = .error e → Q (.error e) s) : Ensures Q (Prog.transaction g) s := by
  refine ⟨rfl, ?_⟩
  unfold Prog.commit Prog.outcome
  cases h : g s with
  | error e => exact herror e h
  | ok v => exact hok v.1 v.2 h

/-- A value that was computed without the store, before the rest. -/
theorem ofExcept_bind {R : Except ε β → σ → Prop} {x : Except ε α} {f : α → Prog σ ε β}
    (hok : ∀ a, x = .ok a → Ensures R (f a) s) (herror : ∀ e, x = .error e → R (.error e) s) :
    Ensures R (Prog.ofExcept x >>= f) s := by
  cases x with
  | ok a => exact hok a rfl
  | error e => exact herror e rfl

/-- Exceptions that are returned. -/
theorem attempt {R : Except ε (Except ε α) → σ → Prop} :
    ∀ {p : Prog σ ε α} {s : σ}, Ensures (fun r t => R (.ok r) t) p s → Ensures R p.attempt s
  | .ret _, _, h => h
  | .raise _, _, h => h
  | .window .., _, h => ⟨h.1, attempt h.2⟩

/-- A program on a part of the store leaves the rest as it is. -/
theorem within {τ : Type} {get : τ → σ} {set : τ → σ → τ} (hget : ∀ t s, get (set t s) = s)
    (hset : ∀ t s s', set (set t s) s' = set t s') (hself : ∀ t, set t (get t) = t) :
    ∀ {p : Prog σ ε α} {t : τ}, Ensures Q p (get t) →
      Ensures (fun r t' => ∃ s, t' = set t s ∧ Q r s) (p.within get set) t
  | .ret _, t, h => ⟨get t, (hself t).symm, h⟩
  | .raise _, t, h => ⟨get t, (hself t).symm, h⟩
  | .window ready act next, t, h => by
      have hrest : Ensures Q (next (get t)) (get (set t (act (get t)))) := by
        rw [hget]
        exact h.2
      refine ⟨h.1, mono ?_ (within hget hset hself hrest)⟩
      rintro r t' ⟨s, rfl, hs⟩
      exact ⟨s, hset t _ s, hs⟩

end Ensures

end Prog

/-! ### Alone for a while -/

namespace Config

variable {σ ε α κ τ : Type} (body : Nat → κ → Prog σ ε α) (environment : τ → σ → σ)

/-- In a run in which nobody else moves, a call gets as far as it gets alone. -/
theorem exists_resumes {i : Nat} {call : κ} {r : Except ε α} {t : σ} (p : Prog σ ε α) :
    ∀ {c : Config σ ε α κ}, c.calls[i]? = some (call, p) → p.alone c.store = some (r, t) →
      ∃ n, (c.runAll body environment (List.replicate n (.resume i))).store = t ∧
        (c.runAll body environment (List.replicate n (.resume i))).Returned i call r ∧
        ∀ j, j ≠ i → (c.runAll body environment (List.replicate n (.resume i))).calls[j]?
          = c.calls[j]? := by
  induction p with
  | ret a =>
      intro c hcall halone
      obtain ⟨rfl, rfl⟩ := Prod.mk.inj (Option.some.inj halone)
      exact ⟨0, rfl, ⟨.ret a, hcall, rfl⟩, fun _ _ => rfl⟩
  | raise e =>
      intro c hcall halone
      obtain ⟨rfl, rfl⟩ := Prod.mk.inj (Option.some.inj halone)
      exact ⟨0, rfl, ⟨.raise e, hcall, rfl⟩, fun _ _ => rfl⟩
  | window ready act next ih =>
      intro c hcall halone
      by_cases hready : ready c.store = true
      · rw [Prog.alone, if_pos hready] at halone
        have hstep : c.resume i = { store := act c.store
                                    calls := c.calls.set i (call, next c.store)
                                    journal := c.journal ++ [(i, c.store, act c.store)] } := by
          simp only [resume, hcall, hready, if_true]
        have hcall' : (c.resume i).calls[i]? = some (call, next c.store) := by
          rw [hstep]
          exact List.getElem?_set_self (List.getElem?_eq_some_iff.mp hcall).1
        have halone' : (next c.store).alone (c.resume i).store = some (r, t) := by
          rw [hstep]
          exact halone
        obtain ⟨n, hstore, hreturned, hothers⟩ := ih c.store hcall' halone'
        refine ⟨n + 1, hstore, hreturned, ?_⟩
        intro j hj
        refine (hothers j hj).trans ?_
        rw [hstep]
        exact List.getElem?_set_ne (Ne.symm hj)
      · rw [Prog.alone, if_neg hready] at halone
        cases halone

end Config

end ControlPlane
