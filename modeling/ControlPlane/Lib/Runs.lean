/-
Runs of a step function.

A run is a list of events folded over a state.  An invariant holds all along a run exactly if
no step of the run breaks it; `kept_iff` says so with what is true of every reachable state at
hand for the step, so that a condition on single steps is as good as one on whole runs.
-/
import Mathlib.Data.List.Induction

namespace ControlPlane

namespace Runs

variable {σ ε : Type} {step : σ → ε → σ}

/-- What every step keeps is kept by every run. -/
theorem foldl_keeps {I : σ → Prop} (hstep : ∀ s e, I s → I (step s e)) (events : List ε) :
    ∀ {s : σ}, I s → I (events.foldl step s) := by
  induction events with
  | nil =>
      intro s h
      exact h
  | cons event rest ih =>
      intro s h
      exact ih (hstep s event h)

/-- **An invariant holds all along a run, and all its steps are lawful, exactly if every step
meets the condition under which a step is lawful and keeps the invariant.** -/
theorem lawful_iff {I R : σ → Prop} {L C : σ → ε → Prop} {s : σ} (hI : I s) (hR : R s)
    (hRstep : ∀ s e, R s → R (step s e))
    (hstep : ∀ s e, R s → I s → (L s e ∧ I (step s e) ↔ C s e)) (events : List ε) :
    ((∀ before event after, events = before ++ event :: after → L (before.foldl step s) event) ∧
      ∀ before after, events = before ++ after → I (before.foldl step s)) ↔
      ∀ before event after, events = before ++ event :: after → C (before.foldl step s) event := by
  constructor
  · rintro ⟨hlawful, hinv⟩ before event after rfl
    have hbefore := hinv before (event :: after) rfl
    have hafter := hinv (before ++ [event]) after (by simp)
    rw [List.foldl_append] at hafter
    exact (hstep _ event (foldl_keeps hRstep before hR) hbefore).mp
      ⟨hlawful before event after rfl, hafter⟩
  · intro hok
    have hinv : ∀ before after, events = before ++ after → I (before.foldl step s) := by
      rintro before after rfl
      induction before using List.reverseRecOn generalizing after with
      | nil => exact hI
      | append_singleton before event ih =>
          have hbefore := ih (event :: after) fun before' event' after' hsplit =>
            hok before' event' after' (by simpa using hsplit)
          rw [List.foldl_append]
          exact ((hstep _ event (foldl_keeps hRstep before hR) hbefore).mpr
            (hok before event after (by simp))).2
    refine ⟨?_, hinv⟩
    rintro before event after rfl
    exact ((hstep _ event (foldl_keeps hRstep before hR) (hinv before _ rfl)).mpr
      (hok before event after rfl)).1

/-- **An invariant holds all along a run exactly if no step breaks it.** -/
theorem kept_iff {I R : σ → Prop} {C : σ → ε → Prop} {s : σ} (hI : I s) (hR : R s)
    (hRstep : ∀ s e, R s → R (step s e))
    (hstep : ∀ s e, R s → I s → (I (step s e) ↔ C s e)) (events : List ε) :
    (∀ before after, events = before ++ after → I (before.foldl step s)) ↔
      ∀ before event after, events = before ++ event :: after → C (before.foldl step s) event := by
  rw [← lawful_iff (L := fun _ _ => True) hI hR hRstep
    (fun s e hR hI => (iff_of_eq (true_and _)).trans (hstep s e hR hI))]
  exact ⟨fun h => ⟨fun _ _ _ _ => trivial, h⟩, fun h => h.2⟩

/-- Every step of a run passes a test. -/
def each (step : σ → ε → σ) (test : σ → ε → Bool) : σ → List ε → Bool
  | _, [] => true
  | s, event :: rest => test s event && each step test (step s event) rest

theorem each_iff {test : σ → ε → Bool} (events : List ε) : ∀ {s : σ},
    each step test s events = true ↔
      ∀ before event after, events = before ++ event :: after →
        test (before.foldl step s) event = true := by
  induction events with
  | nil => simp [each]
  | cons first rest ih =>
      intro s
      rw [each, Bool.and_eq_true, ih]
      constructor
      · rintro ⟨hfirst, hrest⟩ before event after hsplit
        cases before with
        | nil =>
            obtain ⟨rfl, -⟩ := List.cons.inj hsplit
            exact hfirst
        | cons b before =>
            obtain ⟨rfl, hlater⟩ := List.cons.inj hsplit
            exact hrest before event after hlater
      · intro h
        refine ⟨h [] first rest rfl, fun before event after hsplit => ?_⟩
        exact h (first :: before) event after (by rw [hsplit]; rfl)

end Runs

end ControlPlane
