/-
Calls that follow one another.

A turn is a call that runs to its end before the next call starts.  While it runs, and
between the turns, the environment may move the store as `E` allows.  What a call does in
such a run is its obligation under `Protocol.solo`: it may rely on `E` alone, because no
other call is there to interfere.
-/
import ControlPlane.Lib.Sequential

namespace ControlPlane

variable {σ κ ε α : Type}

/-! ### One call -/

/-- The program runs to its end while the environment moves the store between its windows:
the windows, the result, and the store it returns in. -/
inductive Amid (E : σ → σ → Prop) : Prog σ ε α → σ → List (σ × σ) → Except ε α → σ → Prop
  | ret (a : α) (s : σ) : Amid E (.ret a) s [] (.ok a) s
  | raise (e : ε) (s : σ) : Amid E (.raise e) s [] (.error e) s
  | window {ready : σ → Bool} {act : σ → σ} {next : σ → Prog σ ε α} {s t u : σ}
      {windows : List (σ × σ)} {r : Except ε α} :
      E s t → ready t = true → Amid E (next t) (act t) windows r u →
      Amid E (.window ready act next) s ((t, act t) :: windows) r u

/-- The protocol of a call that has the store to itself but for the environment. -/
def Protocol.solo (inv : σ → Prop) (guar : κ → σ → σ → Prop) (E : σ → σ → Prop)
    (refl : ∀ s, E s s) (trans : ∀ s t u, E s t → E t u → E s u) : Protocol σ κ where
  inv := inv
  -- call zero is the one that runs, and everybody else is the environment
  guar := fun
    | 0 => fun call _ => guar call
    | _ + 1 => fun _ _ => E
  rely := fun
    | 0 => E
    | _ + 1 => fun _ _ => True
  relyRefl := fun
    | 0 => refl
    | _ + 1 => fun _ => trivial
  relyTrans := fun
    | 0 => trans
    | _ + 1 => fun _ _ _ _ _ => trivial
  guarRely := fun
    | 0, _, _, 0, _, _, hne, _ => absurd rfl hne
    | _ + 1, _, _, 0, _, _, _, h => h
    | 0, _, _, _ + 1, _, _, _, _ => trivial
    | _ + 1, _, _, _ + 1, _, _, _, _ => trivial
  evolves := fun _ _ => True
  evolvesRefl := fun _ => trivial
  evolvesTrans := fun _ _ _ _ _ => trivial
  guarEvolves := fun _ _ _ _ _ _ => trivial

/-- What holds of the store, is kept by the environment and by every window, holds all
along a call. -/
theorem Amid.keeps {E : σ → σ → Prop} {M : σ → Prop} (hmove : ∀ s t, E s t → M s → M t)
    {p : Prog σ ε α} {s t : σ} {windows : List (σ × σ)} {r : Except ε α}
    (hrun : Amid E p s windows r t) (hwindow : ∀ w ∈ windows, M w.1 → M w.2) (hs : M s) :
    M t ∧ ∀ w ∈ windows, M w.1 ∧ M w.2 := by
  induction hrun with
  | ret a s => exact ⟨hs, by simp⟩
  | raise e s => exact ⟨hs, by simp⟩
  | @window ready act next s t u windows r he _ _ ih =>
      have ht : M t := hmove s t he hs
      have hact : M (act t) := hwindow (t, act t) List.mem_cons_self ht
      obtain ⟨hu, hlater⟩ := ih (fun w hw => hwindow w (List.mem_cons_of_mem _ hw)) hact
      refine ⟨hu, ?_⟩
      intro w hw
      rcases List.mem_cons.mp hw with rfl | hw
      · exact ⟨ht, hact⟩
      · exact hlater w hw

/-- A call that meets its obligation keeps to it in every run of its own. -/
theorem Holds.amid {P : Protocol σ κ} {i : Nat} {call : κ} {Q : Post σ ε α} {E : σ → σ → Prop}
    (hrely : ∀ s t, E s t → P.rely i s t) (hmove : ∀ s t, E s t → P.inv s → P.inv t)
    {p : Prog σ ε α} {s t : σ} {windows : List (σ × σ)} {r : Except ε α}
    (hrun : Amid E p s windows r t) : ∀ {own : List (σ × σ)}, P.inv s →
      Holds P i call Q p own s → P.inv t ∧ Q (own ++ windows) r t ∧
        ∀ w ∈ windows, P.inv w.1 ∧ ∃ own', P.guar i call own' w.1 w.2 := by
  induction hrun with
  | ret a s =>
      intro own hinv h
      rw [List.append_nil]
      exact ⟨hinv, h, by simp⟩
  | raise e s =>
      intro own hinv h
      rw [List.append_nil]
      exact ⟨hinv, h, by simp⟩
  | @window ready act next s t u windows r he hready _ ih =>
      intro own hinv h
      have hinv' := hmove s t he hinv
      obtain ⟨hact, hguar, hnext⟩ := h t (hrely s t he) hinv' hready
      obtain ⟨hu, hq, hlater⟩ := ih hact hnext
      refine ⟨hu, by simpa using hq, ?_⟩
      intro w hw
      rcases List.mem_cons.mp hw with rfl | hw
      · exact ⟨hinv', own, hguar⟩
      · exact hlater w hw

/-! ### Calls in turn -/

/-- A call that has run to its end. -/
structure Turn (σ κ ε α : Type) where
  call : κ
  start : σ
  /-- The windows of the call, as pairs of the store before and after. -/
  windows : List (σ × σ)
  result : Except ε α
  finish : σ

/-- The turns of a run from the store `first`, and the store they have led to. -/
inductive Turns (body : κ → Prog σ ε α) (E : σ → σ → Prop) (first : σ) :
    List (Turn σ κ ε α) → σ → Prop
  | none : Turns body E first [] first
  | move {turns : List (Turn σ κ ε α)} {s t : σ} :
      Turns body E first turns s → E s t → Turns body E first turns t
  | turn {turns : List (Turn σ κ ε α)} {s t : σ} {call : κ} {windows : List (σ × σ)}
      {r : Except ε α} :
      Turns body E first turns s → Amid E (body call) s windows r t →
      Turns body E first (turns ++ [⟨call, s, windows, r, t⟩]) t

/-- What is known of a turn. -/
structure Turn.Sound (P : Protocol σ κ) (Q : κ → Post σ ε α) (turn : Turn σ κ ε α) : Prop where
  start : P.inv turn.start
  windows : ∀ w ∈ turn.windows, P.inv w.1 ∧ ∃ own, P.guar 0 turn.call own w.1 w.2
  post : Q turn.call turn.windows turn.result turn.finish
  finish : P.inv turn.finish

namespace Turns

variable {body : κ → Prog σ ε α} {E : σ → σ → Prop} {first s : σ} {turns : List (Turn σ κ ε α)}

/-- **Every turn of a run meets its obligation.** -/
theorem sound {P : Protocol σ κ} {Q : κ → Post σ ε α}
    (hrely : ∀ s t, E s t → P.rely 0 s t) (hmove : ∀ s t, E s t → P.inv s → P.inv t)
    (hcalls : ∀ call s, P.inv s → Holds P 0 call (Q call) (body call) [] s)
    (hfirst : P.inv first) (hrun : Turns body E first turns s) :
    P.inv s ∧ ∀ turn ∈ turns, turn.Sound P Q := by
  induction hrun with
  | none => exact ⟨hfirst, by simp⟩
  | move _ he ih => exact ⟨hmove _ _ he ih.1, ih.2⟩
  | @turn turns s t call windows r _ hamid ih =>
      obtain ⟨hinv, hturns⟩ := ih
      obtain ⟨hinv', hpost, hwindows⟩ := Holds.amid hrely hmove hamid hinv (hcalls call s hinv)
      refine ⟨hinv', ?_⟩
      intro turn hturn
      rcases List.mem_append.mp hturn with hturn | hturn
      · exact hturns turn hturn
      · rw [List.mem_singleton.mp hturn]
        exact ⟨hinv, hwindows, hpost, hinv'⟩

/-- What is kept by the environment and by every window holds all along a run. -/
theorem keeps {M : σ → Prop} (hmove : ∀ s t, E s t → M s → M t)
    (hrun : Turns body E first turns s)
    (hwindow : ∀ turn ∈ turns, ∀ w ∈ turn.windows, M w.1 → M w.2) (hfirst : M first) :
    M s ∧ ∀ turn ∈ turns, M turn.start ∧ M turn.finish ∧ ∀ w ∈ turn.windows, M w.1 ∧ M w.2 := by
  induction hrun with
  | none => exact ⟨hfirst, by simp⟩
  | move _ he ih =>
      obtain ⟨hs, hturns⟩ := ih hwindow
      exact ⟨hmove _ _ he hs, hturns⟩
  | @turn turns s t call windows r _ hamid ih =>
      obtain ⟨hs, hturns⟩ := ih fun turn hturn => hwindow turn (List.mem_append_left _ hturn)
      obtain ⟨ht, hwindows⟩ := hamid.keeps hmove
        (hwindow ⟨call, s, windows, r, t⟩ (by simp)) hs
      refine ⟨ht, ?_⟩
      intro turn hturn
      rcases List.mem_append.mp hturn with hturn | hturn
      · exact hturns turn hturn
      · rw [List.mem_singleton.mp hturn]
        exact ⟨hs, ht, hwindows⟩

/-- A property that every window keeps under one condition alone holds all along a run just
when every window meets the condition. -/
theorem kept_iff {M : σ → Prop} {C : σ × σ → Prop} (hmove : ∀ s t, E s t → M s → M t)
    (hrun : Turns body E first turns s)
    (hwindow : ∀ turn ∈ turns, ∀ w ∈ turn.windows, M w.1 → (M w.2 ↔ C w)) (hfirst : M first) :
    (M s ∧ ∀ turn ∈ turns, M turn.start ∧ M turn.finish ∧ ∀ w ∈ turn.windows, M w.1 ∧ M w.2) ↔
      ∀ turn ∈ turns, ∀ w ∈ turn.windows, C w := by
  constructor
  · rintro ⟨-, hturns⟩ turn hturn w hw
    obtain ⟨hbefore, hafter⟩ := (hturns turn hturn).2.2 w hw
    exact (hwindow turn hturn w hw hbefore).mp hafter
  · intro hcondition
    refine keeps hmove hrun ?_ hfirst
    intro turn hturn w hw hbefore
    exact (hwindow turn hturn w hw hbefore).mpr (hcondition turn hturn w hw)

end Turns

/-! ### Earlier and later -/

/-- The stores of a call, in their order. -/
def Turn.states (turn : Turn σ κ ε α) : List σ :=
  turn.start :: turn.windows.flatMap (fun w => [w.1, w.2]) ++ [turn.finish]

/-- The stores of a run, in their order. -/
def Turns.states (first : σ) (turns : List (Turn σ κ ε α)) (finish : σ) : List σ :=
  first :: turns.flatMap Turn.states ++ [finish]

/-- The call of a turn starts before it ends. -/
theorem Turns.sublist_states {first finish : σ} {turns : List (Turn σ κ ε α)}
    {turn : Turn σ κ ε α} (hturn : turn ∈ turns) :
    [turn.start, turn.finish].Sublist (Turns.states first turns finish) := by
  have hown : [turn.start, turn.finish].Sublist turn.states :=
    List.Sublist.cons_cons _ (List.sublist_append_right _ _)
  have hall : turn.states.Sublist (turns.flatMap Turn.states) := by
    rw [List.flatMap_def]
    exact List.sublist_flatten_of_mem (List.mem_map_of_mem hturn)
  exact ((hown.trans hall).trans (List.sublist_append_left _ _)).cons first

theorem pairwise_snoc {R : σ → σ → Prop} {states : List σ} {s : σ} :
    (states ++ [s]).Pairwise R ↔ states.Pairwise R ∧ ∀ x ∈ states, R x s := by
  simp [List.pairwise_append]

/-- What the environment and the windows of a call do, it does from the earlier to the later
of any two of its stores. -/
theorem Amid.pairwise {E R : σ → σ → Prop} (hrefl : ∀ s, R s s)
    (htrans : ∀ s t u, R s t → R t u → R s u) (hmove : ∀ s t, E s t → R s t) {p : Prog σ ε α}
    {s t : σ} {windows : List (σ × σ)} {r : Except ε α} (hrun : Amid E p s windows r t)
    (hwindow : ∀ w ∈ windows, R w.1 w.2) :
    (s :: windows.flatMap (fun w => [w.1, w.2]) ++ [t]).Pairwise R := by
  induction hrun with
  | ret a s => simp [hrefl]
  | raise e s => simp [hrefl]
  | @window ready act next s t u windows r he _ _ ih =>
      have hst := hmove s t he
      have hact : R t (act t) := hwindow (t, act t) List.mem_cons_self
      have hlater := ih fun w hw => hwindow w (List.mem_cons_of_mem _ hw)
      -- what comes later comes after the store that this window has left
      rw [List.cons_append, List.pairwise_cons] at hlater
      have hleft := fun x hx => htrans _ _ _ hact (hlater.1 x hx)
      refine List.pairwise_cons.mpr ⟨?_, List.pairwise_cons.mpr ⟨?_, ?_⟩⟩
      · intro x hx
        rcases List.mem_cons.mp hx with rfl | hx
        · exact hst
        · rcases List.mem_cons.mp hx with rfl | hx
          · exact htrans _ _ _ hst hact
          · exact htrans _ _ _ hst (hleft x hx)
      · intro x hx
        rcases List.mem_cons.mp hx with rfl | hx
        · exact hact
        · exact hleft x hx
      · exact List.pairwise_cons.mpr hlater

/-- **What the environment and every window do, a run does from the earlier to the later of
any two of its stores.** -/
theorem Turns.pairwise {body : κ → Prog σ ε α} {E R : σ → σ → Prop} {first s : σ}
    {turns : List (Turn σ κ ε α)} (hrefl : ∀ s, R s s)
    (htrans : ∀ s t u, R s t → R t u → R s u) (hmove : ∀ s t, E s t → R s t)
    (hrun : Turns body E first turns s)
    (hwindow : ∀ turn ∈ turns, ∀ w ∈ turn.windows, R w.1 w.2) :
    (Turns.states first turns s).Pairwise R := by
  induction hrun with
  | none => simp [Turns.states, hrefl]
  | move _ he ih =>
      obtain ⟨hstates, hlast⟩ := pairwise_snoc.mp (ih hwindow)
      exact pairwise_snoc.mpr ⟨hstates, fun x hx => htrans _ _ _ (hlast x hx) (hmove _ _ he)⟩
  | @turn turns s t call windows r _ hamid ih =>
      obtain ⟨hstates, hlast⟩ :=
        pairwise_snoc.mp (ih fun turn hturn => hwindow turn (List.mem_append_left _ hturn))
      have hcall := hamid.pairwise hrefl htrans hmove (hwindow ⟨call, s, windows, r, t⟩ (by simp))
      have hall : (first :: turns.flatMap Turn.states ++ Turn.states ⟨call, s, windows, r, t⟩).Pairwise
          R := by
        refine List.pairwise_append.mpr ⟨hstates, hcall, ?_⟩
        intro x hx y hy
        rcases List.mem_cons.mp hy with rfl | hy
        · exact hlast x hx
        · rw [List.cons_append, List.pairwise_cons] at hcall
          exact htrans _ _ _ (hlast x hx) (hcall.1 y hy)
      have hend : ∀ x ∈ Turn.states ⟨call, s, windows, r, t⟩, R x t := by
        intro x hx
        rcases List.mem_append.mp hx with hx | hx
        · exact (pairwise_snoc.mp hcall).2 x hx
        · rw [List.mem_singleton.mp hx]
          exact hrefl t
      unfold Turns.states
      rw [List.flatMap_append, List.flatMap_singleton, ← List.cons_append]
      refine pairwise_snoc.mpr ⟨hall, ?_⟩
      intro x hx
      rcases List.mem_append.mp hx with hx | hx
      · exact htrans _ _ _ (hlast x hx) (hend s (by simp [Turn.states]))
      · exact hend x hx

/-- What is kept by the environment and by every window holds of every store of a run. -/
theorem Turns.all_states {body : κ → Prog σ ε α} {E : σ → σ → Prop} {M : σ → Prop}
    {first s : σ} {turns : List (Turn σ κ ε α)} (hmove : ∀ s t, E s t → M s → M t)
    (hrun : Turns body E first turns s)
    (hwindow : ∀ turn ∈ turns, ∀ w ∈ turn.windows, M w.1 → M w.2) (hfirst : M first) :
    ∀ x ∈ Turns.states first turns s, M x := by
  have hpairs := Turns.pairwise (R := fun s t => M s → M t) (fun _ h => h)
    (fun _ _ _ hab hbc h => hbc (hab h)) hmove hrun hwindow
  rw [Turns.states, List.cons_append, List.pairwise_cons] at hpairs
  intro x hx
  rcases List.mem_cons.mp hx with rfl | hx
  · exact hfirst
  · exact hpairs.1 x hx hfirst

/-! ### Calls that run alone -/

/-- A call that has the store to itself runs to its end amid an environment that does
nothing. -/
theorem Amid.of_alone {E : σ → σ → Prop} (hrefl : ∀ s, E s s) (p : Prog σ ε α) :
    ∀ {s t : σ} {r : Except ε α}, p.alone s = some (r, t) → ∃ windows, Amid E p s windows r t := by
  induction p with
  | ret a =>
      rintro s t r h
      obtain ⟨rfl, rfl⟩ := Prod.mk.inj (Option.some.inj h)
      exact ⟨[], .ret a s⟩
  | raise e =>
      rintro s t r h
      obtain ⟨rfl, rfl⟩ := Prod.mk.inj (Option.some.inj h)
      exact ⟨[], .raise e s⟩
  | window ready act next ih =>
      intro s t r h
      unfold Prog.alone at h
      by_cases hready : ready s = true
      · rw [if_pos hready] at h
        obtain ⟨windows, hwindows⟩ := ih s h
        exact ⟨(s, act s) :: windows, .window (hrefl s) hready hwindows⟩
      · rw [if_neg hready] at h
        cases h

/-- Runs one call after the other, each alone, after the environment has moved the store. -/
def play {τ : Type} (body : κ → Prog σ ε α) (environment : τ → σ → σ) :
    List (τ × κ) → σ → Option σ
  | [], s => some s
  | (e, call) :: rest, s =>
      match (body call).alone (environment e s) with
      | none => none
      | some (_, t) => play body environment rest t

/-- What is played is a run. -/
theorem Turns.of_play {τ : Type} {body : κ → Prog σ ε α} {environment : τ → σ → σ}
    {E : σ → σ → Prop} {first : σ} (hrefl : ∀ s, E s s) (script : List (τ × κ))
    (hmoves : ∀ step ∈ script, ∀ s, E s (environment step.1 s)) :
    ∀ {turns : List (Turn σ κ ε α)} {s t : σ}, Turns body E first turns s →
      play body environment script s = some t → ∃ turns', Turns body E first turns' t := by
  induction script with
  | nil =>
      intro turns s t hrun h
      obtain rfl := Option.some.inj h
      exact ⟨turns, hrun⟩
  | cons step rest ih =>
      intro turns s t hrun h
      unfold play at h
      cases halone : (body step.2).alone (environment step.1 s) with
      | none =>
          rw [halone] at h
          cases h
      | some v =>
          rw [halone] at h
          obtain ⟨windows, hamid⟩ := Amid.of_alone hrefl (body step.2) halone
          exact ih (fun later hlater => hmoves later (List.mem_cons_of_mem _ hlater))
            ((hrun.move (hmoves step List.mem_cons_self s)).turn hamid) h

end ControlPlane
