/-
What every window of a call does.

`Acts R` says of a program that each of its windows, run in any store, moves it as `R` allows.
Nothing has to be known of what the windows find, so the parts of a program are taken one by one;
`step_acts` brings it to runs.
-/
import ControlPlane.Lib.Looking

namespace ControlPlane

namespace Prog

variable {σ τ ε α β : Type}

/-- The next window moves every store as `R` allows. -/
def Moves (R : σ → σ → Prop) : Prog σ ε α → Prop
  | ret _ | raise _ => True
  | window _ act _ => ∀ s, R s (act s)

/-- All windows do. -/
def Acts (R : σ → σ → Prop) (p : Prog σ ε α) : Prop := p.Each (Moves R)

namespace Acts

variable {R : σ → σ → Prop}

theorem ret (a : α) : Acts R (pure a : Prog σ ε α) := trivial

theorem raise (e : ε) : Acts R (Prog.raise e : Prog σ ε α) := trivial

theorem bind {f : α → Prog σ ε β} (hf : ∀ a, Acts R (f a)) :
    ∀ {p : Prog σ ε α}, Acts R p → Acts R (p >>= f)
  | .ret a, _ => hf a
  | .raise _, _ => trivial
  | .window .., h => ⟨h.1, fun s => Acts.bind hf (h.2 s)⟩

theorem read (hR : ∀ s, R s s) (f : σ → α) : Acts R (Prog.read f : Prog σ ε α) :=
  ⟨hR, fun _ => trivial⟩

/-- A window that looks, before the rest of a program. -/
theorem read_bind (hR : ∀ s, R s s) {f : σ → α} {g : α → Prog σ ε β}
    (hg : ∀ a, Acts R (g a)) : Acts R (Prog.read f >>= g) :=
  Acts.bind hg (Acts.read hR f)

/-- A part that looks moves nothing. -/
theorem of_looks (hR : ∀ s, R s s) {Q : Except ε α → Prop} {p : Prog σ ε α} (h : p.Looks Q) :
    Acts R p :=
  Looks.each (fun _ act _ hact s => by
    rw [hact s]
    exact hR s) h

theorem update {f : σ → α × σ} (h : ∀ s, R s (f s).2) : Acts R (Prog.update f : Prog σ ε α) :=
  ⟨h, fun _ => trivial⟩

theorem transactionWhen (hR : ∀ s, R s s) {ready : σ → Bool} {f : σ → Except ε (α × σ)}
    (h : ∀ s a t, f s = .ok (a, t) → R s t) : Acts R (Prog.transactionWhen ready f) := by
  refine ⟨fun s => ?_, fun s => ?_⟩
  · unfold Prog.commit
    cases hf : f s with
    | error e => exact hR s
    | ok done => exact h s done.1 done.2 hf
  · unfold Prog.outcome
    cases f s <;> trivial

theorem transaction (hR : ∀ s, R s s) {f : σ → Except ε (α × σ)}
    (h : ∀ s a t, f s = .ok (a, t) → R s t) : Acts R (Prog.transaction f) :=
  transactionWhen hR h

theorem attempt : ∀ {p : Prog σ ε α}, Acts R p → Acts R p.attempt
  | .ret _, _ => trivial
  | .raise _, _ => trivial
  | .window .., h => ⟨h.1, fun s => Acts.attempt (h.2 s)⟩

theorem ofExcept (x : Except ε α) : Acts R (Prog.ofExcept x : Prog σ ε α) := by
  cases x <;> trivial

/-- A program that works on a part of a larger store. -/
theorem within {get : τ → σ} {set : τ → σ → τ} {R' : τ → τ → Prop}
    (h : ∀ t s, R (get t) s → R' t (set t s)) :
    ∀ {p : Prog σ ε α}, Acts R p → Acts R' (p.within get set)
  | .ret _, _ => trivial
  | .raise _, _ => trivial
  | .window .., hp => ⟨fun t => h t _ (hp.1 (get t)), fun t => Acts.within h (hp.2 (get t))⟩

end Acts

end Prog

/-- **A step of a run moves the store as all windows do**, and the environment. -/
theorem Config.step_acts {σ ε α κ τ : Type} {body : Nat → κ → Prog σ ε α}
    {environment : τ → σ → σ} {R : σ → σ → Prop} (hR : ∀ s, R s s)
    (henv : ∀ e s, R s (environment e s)) {c : Config σ ε α κ}
    (hcalls : ∀ entry ∈ c.calls, entry.2.Acts R) (event : Event κ τ) :
    R c.store (c.step body environment event).store := by
  cases event with
  | start call => exact hR c.store
  | environment e => exact henv e c.store
  | resume i =>
      show R c.store (c.resume i).store
      rcases Config.resume_each hcalls i with hsame | ⟨call, ready, act, next, -, hmoves, hstore⟩
      · rw [hsame]
        exact hR c.store
      · rw [hstore]
        exact hmoves c.store

end ControlPlane
