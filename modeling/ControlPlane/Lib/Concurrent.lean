/-
Calls that share one store, in any interleaving.

A call is a program of windows.  A window is what the store does in one go for the
call: a read, or everything between taking a lock and the commit.  Between two windows
of a call any number of windows of other calls may run, and the environment may act.

`Protocol` says what a call may rely on while it waits and what its own windows
guarantee.  `Holds` is the proof obligation of one call, checked window by window and
never mentioning another call.  `Sound.runAll` puts the calls together, and
`Sound.returns` says that each meets its postcondition in the store it returns in.

The journal of a run lists its windows with the call that ran each.  It exists to count:
when a property of the store, once made, is never unmade, only one window made it.
-/
import Mathlib.Data.List.Pairwise
import Mathlib.Tactic.Common

namespace ControlPlane

/-! ### Programs of windows -/

/-- A call that returns a value, raises, or has a window to run. -/
inductive Prog (σ ε α : Type) where
  | ret (a : α)
  | raise (e : ε)
  /-- Waits for `ready`, then changes the store and goes on with what it saw before. -/
  | window (ready : σ → Bool) (act : σ → σ) (next : σ → Prog σ ε α)

namespace Prog

variable {σ ε α β : Type}

/-- `f` goes on where the first program returns. -/
def bind : Prog σ ε α → (α → Prog σ ε β) → Prog σ ε β
  | ret a, f => f a
  | raise e, _ => raise e
  | window ready act next, f => window ready act fun s => (next s).bind f

instance : Monad (Prog σ ε) where
  pure := ret
  bind := bind

/-- The program that has this result. -/
def ofExcept : Except ε α → Prog σ ε α
  | .ok a => ret a
  | .error e => raise e

/-- The result of a program that has one. -/
def result? : Prog σ ε α → Option (Except ε α)
  | ret a => some (.ok a)
  | raise e => some (.error e)
  | window .. => none

/-- The store after `f`, which keeps nothing of an `f` that raised. -/
def commit (f : σ → Except ε (α × σ)) (s : σ) : σ :=
  match f s with
  | .ok (_, s') => s'
  | .error _ => s

/-- The program left after `f` has run in one window. -/
def outcome (f : σ → Except ε (α × σ)) (s : σ) : Prog σ ε α :=
  match f s with
  | .ok (a, _) => ret a
  | .error e => raise e

/-- One window that waits for `ready` and runs `f`, rolled back when `f` raises. -/
def transactionWhen (ready : σ → Bool) (f : σ → Except ε (α × σ)) : Prog σ ε α :=
  window ready (commit f) (outcome f)

/-- One window that runs `f`, rolled back when `f` raises. -/
def transaction (f : σ → Except ε (α × σ)) : Prog σ ε α :=
  transactionWhen (fun _ => true) f

/-- A window that only looks. -/
def read (f : σ → α) : Prog σ ε α :=
  window (fun _ => true) id fun s => ret (f s)

/-- A window that never raises. -/
def update (f : σ → α × σ) : Prog σ ε α :=
  window (fun _ => true) (fun s => (f s).2) fun s => ret (f s).1

/-- The program with its exceptions returned. -/
def attempt : Prog σ ε α → Prog σ ε (Except ε α)
  | ret a => ret (.ok a)
  | raise e => ret (.error e)
  | window ready act next => window ready act fun s => (next s).attempt

/-- Every window that the program may come to is as `W` says of what is left then. -/
def Each (W : Prog σ ε α → Prop) : Prog σ ε α → Prop
  | ret _ | raise _ => True
  | window ready act next => W (window ready act next) ∧ ∀ s, Each W (next s)

@[simp] theorem pure_eq (a : α) : (pure a : Prog σ ε α) = ret a := rfl

@[simp] theorem bind_eq (p : Prog σ ε α) (f : α → Prog σ ε β) : (p >>= f) = p.bind f := rfl

@[simp] theorem bind_ret (a : α) (f : α → Prog σ ε β) : (ret a).bind f = f a := rfl

@[simp] theorem bind_raise (e : ε) (f : α → Prog σ ε β) :
    (raise e : Prog σ ε α).bind f = raise e := rfl

end Prog

/-! ### Protocols and proof obligations -/

/-- What calls of kind `κ` on one store promise each other.  Calls are numbered. -/
structure Protocol (σ κ : Type) where
  /-- What every window finds and leaves. -/
  inv : σ → Prop
  /-- What a window of call `i`, which is `call` and has run the windows `own`, may do to
  the store. -/
  guar : Nat → κ → List (σ × σ) → σ → σ → Prop
  /-- What may happen to the store while call `i` waits. -/
  rely : Nat → σ → σ → Prop
  /-- Nothing may happen. -/
  relyRefl : ∀ i s, rely i s s
  /-- One thing may happen after another. -/
  relyTrans : ∀ i s t u, rely i s t → rely i t u → rely i s u
  /-- Every call may rely on what the others guarantee. -/
  guarRely : ∀ i call own j s t, i ≠ j → guar i call own s t → rely j s t
  /-- How the store may have moved on from one point of a run to a later one. -/
  evolves : σ → σ → Prop
  /-- The store may be the same at both points. -/
  evolvesRefl : ∀ s, evolves s s
  /-- Points of a run follow one another. -/
  evolvesTrans : ∀ s t u, evolves s t → evolves t u → evolves s u
  /-- Windows move the store on. -/
  guarEvolves : ∀ i call own s t, guar i call own s t → evolves s t

/-- A protocol in which every call promises the same and relies on the same. -/
def Protocol.shared {σ κ : Type} (inv : σ → Prop) (rel : σ → σ → Prop)
    (refl : ∀ s, rel s s) (trans : ∀ s t u, rel s t → rel t u → rel s u) : Protocol σ κ where
  inv := inv
  guar := fun _ _ _ => rel
  rely := fun _ => rel
  relyRefl := fun _ => refl
  relyTrans := fun _ => trans
  guarRely := fun _ _ _ _ _ _ _ h => h
  evolves := rel
  evolvesRefl := refl
  evolvesTrans := trans
  guarEvolves := fun _ _ _ _ _ h => h

section Obligations

variable {σ κ ε α β : Type}

/-- What a call's result is held to: the windows the call ran, as pairs of the store
before and after, its result, and the store when it returned. -/
abbrev Post (σ ε α : Type) := List (σ × σ) → Except ε α → σ → Prop

/-- `k` of a value that is returned, `Q` of an exception. -/
def Post.afterOk (Q : Post σ ε β) (k : α → List (σ × σ) → σ → Prop) : Post σ ε α
  | own, .ok a, s => k a own s
  | own, .error e, s => Q own (.error e) s

/-- From store `s` on, and after the windows `own`, call `i` keeps the protocol and
returns only as `Q` says, whatever the others do. -/
def Holds (P : Protocol σ κ) (i : Nat) (call : κ) (Q : Post σ ε α) :
    Prog σ ε α → List (σ × σ) → σ → Prop
  | .ret a, own, s => Q own (.ok a) s
  | .raise e, own, s => Q own (.error e) s
  | .window ready act next, own, s =>
      ∀ s', P.rely i s s' → P.inv s' → ready s' = true →
        P.inv (act s') ∧ P.guar i call own s' (act s') ∧
          Holds P i call Q (next s') (own ++ [(s', act s')]) (act s')

namespace Holds

variable {P : Protocol σ κ} {i : Nat} {call : κ}

/-- A weaker postcondition is met too. -/
theorem mono {Q Q' : Post σ ε α} (hq : ∀ own r s, Q own r s → Q' own r s) :
    ∀ (p : Prog σ ε α) (own : List (σ × σ)) (s : σ), Holds P i call Q p own s → Holds P i call Q' p own s
  | .ret a, own, s, h => hq own (.ok a) s h
  | .raise e, own, s, h => hq own (.error e) s h
  | .window _ act next, own, s, h => by
      intro s' hrely hinv hready
      obtain ⟨hinv', hguar, hnext⟩ := h s' hrely hinv hready
      exact ⟨hinv', hguar, mono hq (next s') _ _ hnext⟩

/-- A program keeps to every protocol that lets it rely on as much and do as much. -/
theorem translate {κ' : Type} {P' : Protocol σ κ'} {i' : Nat} {call' : κ'}
    (hrely : ∀ s t, P'.rely i' s t → P.rely i s t) (hinv : ∀ s, P'.inv s → P.inv s)
    (hguar : ∀ own s t, P'.inv s → P.inv t → P.guar i call own s t →
      P'.inv t ∧ P'.guar i' call' own s t) {Q : Post σ ε α} :
    ∀ {p : Prog σ ε α} {own : List (σ × σ)} {s : σ}, Holds P i call Q p own s →
      Holds P' i' call' Q p own s
  | .ret _, _, _, h => h
  | .raise _, _, _, h => h
  | .window .., _, _, h => by
      intro s' hmove hinv' hready
      obtain ⟨hact, hdone, hnext⟩ := h s' (hrely _ _ hmove) (hinv _ hinv') hready
      obtain ⟨hact', hdone'⟩ := hguar _ _ _ hinv' hact hdone
      exact ⟨hact', hdone', translate hrely hinv hguar hnext⟩

/-- The sequence of two programs: the second starts in the store the first returned in. -/
theorem bind {Q : Post σ ε β} {f : α → Prog σ ε β} :
    ∀ (p : Prog σ ε α) (own : List (σ × σ)) (s : σ),
      Holds P i call (Q.afterOk fun a own s => Holds P i call Q (f a) own s) p own s →
        Holds P i call Q (p >>= f) own s
  | .ret _, _, _, h => h
  | .raise _, _, _, h => h
  | .window _ act next, own, s, h => by
      intro s' hrely hinv hready
      obtain ⟨hinv', hguar, hnext⟩ := h s' hrely hinv hready
      exact ⟨hinv', hguar, bind (next s') _ _ hnext⟩

/-- The windows a call has run stay run. -/
theorem grows {Q : Post σ ε α} {past : List (σ × σ)} :
    ∀ (p : Prog σ ε α) (own : List (σ × σ)) (s : σ), past <+: own → Holds P i call Q p own s →
      Holds P i call (fun own r t => Q own r t ∧ past <+: own) p own s
  | .ret _, _, _, hpast, h => ⟨h, hpast⟩
  | .raise _, _, _, hpast, h => ⟨h, hpast⟩
  | .window _ act next, own, s, hpast, h => by
      intro s' hrely hinv hready
      obtain ⟨hinv', hguar, hnext⟩ := h s' hrely hinv hready
      have hpast' := hpast.trans (List.prefix_append own [(s', act s')])
      exact ⟨hinv', hguar, grows (next s') _ _ hpast' hnext⟩

/-- What neither the others nor the call itself undo stays true. -/
theorem stable {Q : Post σ ε α} {S : σ → Prop} (hrely : ∀ s t, P.rely i s t → S s → S t)
    (hguar : ∀ own s t, P.guar i call own s t → S s → S t) :
    ∀ (p : Prog σ ε α) (own : List (σ × σ)) (s : σ), S s → Holds P i call Q p own s →
      Holds P i call (fun own r t => Q own r t ∧ S t) p own s
  | .ret _, _, _, hs, h => ⟨h, hs⟩
  | .raise _, _, _, hs, h => ⟨h, hs⟩
  | .window _ act next, own, s, hs, h => by
      intro s' hwaited hinv hready
      obtain ⟨hinv', hwindow, hnext⟩ := h s' hwaited hinv hready
      have hs' := hguar own s' (act s') hwindow (hrely s s' hwaited hs)
      exact ⟨hinv', hwindow, stable hrely hguar (next s') _ _ hs' hnext⟩

/-- A part of a call of which only the protocol is known, before the rest of it. -/
theorem quiet_bind {Q : Post σ ε β} {p : Prog σ ε α} {f : α → Prog σ ε β}
    {own : List (σ × σ)} {s : σ} (hp : Holds P i call (fun _ _ _ => True) p own s)
    (hok : ∀ a own' t, own <+: own' → Holds P i call Q (f a) own' t)
    (herror : ∀ e own' t, own <+: own' → Q own' (.error e) t) :
    Holds P i call Q (p >>= f) own s := by
  refine bind _ _ _ (mono ?_ _ _ _ (grows p own s List.prefix_rfl hp))
  intro own' r t h
  cases r with
  | ok a => exact hok a own' t h.2
  | error e => exact herror e own' t h.2

/-- A value that was computed without the store, before the rest of a call. -/
theorem ofExcept_bind {Q : Post σ ε β} {x : Except ε α} {f : α → Prog σ ε β}
    {own : List (σ × σ)} {s : σ} (hok : ∀ a, x = .ok a → Holds P i call Q (f a) own s)
    (herror : ∀ e, x = .error e → Q own (.error e) s) :
    Holds P i call Q (Prog.ofExcept x >>= f) own s := by
  cases x with
  | ok a => exact hok a rfl
  | error e => exact herror e rfl

/-- Exceptions that are returned. -/
theorem attempt {Q : Post σ ε (Except ε α)} :
    ∀ (p : Prog σ ε α) (own : List (σ × σ)) (s : σ),
      Holds P i call (fun own r s => Q own (.ok r) s) p own s →
        Holds P i call Q p.attempt own s
  | .ret _, _, _, h => h
  | .raise _, _, _, h => h
  | .window _ act next, own, s, h => by
      intro s' hrely hinv hready
      obtain ⟨hinv', hguar, hnext⟩ := h s' hrely hinv hready
      exact ⟨hinv', hguar, attempt (next s') _ _ hnext⟩

/-- One window that commits or rolls back.  A window that raised changed nothing, so
only the exception is left to answer for. -/
theorem transactionWhen {Q : Post σ ε α} {ready : σ → Bool} {f : σ → Except ε (α × σ)}
    {own : List (σ × σ)} {s : σ} (hguar : ∀ t, P.guar i call own t t)
    (hok : ∀ t a t', P.rely i s t → P.inv t → ready t = true → f t = .ok (a, t') →
      P.inv t' ∧ P.guar i call own t t' ∧ Q (own ++ [(t, t')]) (.ok a) t')
    (herror : ∀ t e, P.rely i s t → P.inv t → ready t = true → f t = .error e →
      Q (own ++ [(t, t)]) (.error e) t) :
    Holds P i call Q (Prog.transactionWhen ready f) own s := by
  intro t hrely hinv hready
  unfold Prog.commit Prog.outcome
  cases h : f t with
  | error e => exact ⟨hinv, hguar t, herror t e hrely hinv hready h⟩
  | ok v => exact hok t v.1 v.2 hrely hinv hready h

/-- One window that commits or rolls back, before the rest of a call. -/
theorem transaction_bind {Q : Post σ ε β} {f : σ → Except ε (α × σ)} {g : α → Prog σ ε β}
    {own : List (σ × σ)} {s : σ} (hguar : ∀ t, P.guar i call own t t)
    (hok : ∀ t a t', P.rely i s t → P.inv t → f t = .ok (a, t') →
      P.inv t' ∧ P.guar i call own t t' ∧ Holds P i call Q (g a) (own ++ [(t, t')]) t')
    (herror : ∀ t e, P.rely i s t → P.inv t → f t = .error e →
      Q (own ++ [(t, t)]) (.error e) t) :
    Holds P i call Q (Prog.transaction f >>= g) own s :=
  bind _ _ _ (transactionWhen hguar (fun t a t' hrely hinv _ h => hok t a t' hrely hinv h)
    (fun t e hrely hinv _ h => herror t e hrely hinv h))

/-- A window that only looks, before the rest of a call. -/
theorem read_bind {Q : Post σ ε β} {f : σ → α} {g : α → Prog σ ε β} {own : List (σ × σ)} {s : σ}
    (hguar : ∀ t, P.guar i call own t t)
    (h : ∀ t, P.rely i s t → P.inv t → Holds P i call Q (g (f t)) (own ++ [(t, t)]) t) :
    Holds P i call Q (Prog.read f >>= g) own s := by
  intro t hrely hinv _
  exact ⟨hinv, hguar t, h t hrely hinv⟩

/-- A window that never raises, before the rest of a call. -/
theorem update_bind {Q : Post σ ε β} {f : σ → α × σ} {g : α → Prog σ ε β}
    {own : List (σ × σ)} {s : σ}
    (h : ∀ t, P.rely i s t → P.inv t → P.inv (f t).2 ∧ P.guar i call own t (f t).2 ∧
      Holds P i call Q (g (f t).1) (own ++ [(t, (f t).2)]) (f t).2) :
    Holds P i call Q (Prog.update f >>= g) own s := by
  intro t hrely hinv _
  exact h t hrely hinv

/-- One window that never waits. -/
theorem transaction {Q : Post σ ε α} {f : σ → Except ε (α × σ)}
    {own : List (σ × σ)} {s : σ} (hguar : ∀ t, P.guar i call own t t)
    (hok : ∀ t a t', P.rely i s t → P.inv t → f t = .ok (a, t') →
      P.inv t' ∧ P.guar i call own t t' ∧ Q (own ++ [(t, t')]) (.ok a) t')
    (herror : ∀ t e, P.rely i s t → P.inv t → f t = .error e →
      Q (own ++ [(t, t)]) (.error e) t) :
    Holds P i call Q (Prog.transaction f) own s :=
  transactionWhen hguar (fun t a t' hrely hinv _ h => hok t a t' hrely hinv h)
    (fun t e hrely hinv _ h => herror t e hrely hinv h)

/-- A window that only looks. -/
theorem read {Q : Post σ ε α} {f : σ → α} {own : List (σ × σ)} {s : σ}
    (hguar : ∀ t, P.guar i call own t t)
    (h : ∀ t, P.rely i s t → P.inv t → Q (own ++ [(t, t)]) (.ok (f t)) t) :
    Holds P i call Q (Prog.read f) own s := by
  intro t hrely hinv _
  exact ⟨hinv, hguar t, h t hrely hinv⟩

end Holds

end Obligations

/-! ### Runs -/

/-- The store, the calls made so far, and the windows run so far. -/
structure Config (σ ε α κ : Type) where
  store : σ
  /-- What was called and what is left of it; a call's number is its place here. -/
  calls : List (κ × Prog σ ε α)
  /-- The windows in order: the call, the store before and the store after. -/
  journal : List (Nat × σ × σ)

/-- What can happen next. -/
inductive Event (κ τ : Type) where
  /-- Somebody makes a call. -/
  | start (call : κ)
  /-- A call runs its next window. -/
  | resume (i : Nat)
  /-- Something other than a call acts on the store. -/
  | environment (e : τ)

/-- The call that an event makes. -/
def Event.call? {κ τ : Type} : Event κ τ → Option κ
  | .start call => some call
  | .resume _ | .environment _ => none

section Runs

variable {σ ε α κ τ : Type} (body : Nat → κ → Prog σ ε α) (environment : τ → σ → σ)

namespace Config

/-- A store that nobody has called yet. -/
def initial (s : σ) : Config σ ε α κ := ⟨s, [], []⟩

/-- Run the next window of call `i`; a call that waits or has returned does nothing. -/
def resume (c : Config σ ε α κ) (i : Nat) : Config σ ε α κ :=
  match c.calls[i]? with
  | some (call, .window ready act next) =>
      if ready c.store then
        { store := act c.store
          calls := c.calls.set i (call, next c.store)
          journal := c.journal ++ [(i, c.store, act c.store)] }
      else c
  | _ => c

/-- The configuration after one event. -/
def step (c : Config σ ε α κ) : Event κ τ → Config σ ε α κ
  | .start call => { c with calls := c.calls ++ [(call, body c.calls.length call)] }
  | .resume i => c.resume i
  | .environment e => { c with store := environment e c.store }

/-- The configuration after these events. -/
def runAll (c : Config σ ε α κ) (events : List (Event κ τ)) : Config σ ε α κ :=
  events.foldl (step body environment) c

/-- The windows call `i` has run, in order. -/
def own (c : Config σ ε α κ) (i : Nat) : List (σ × σ) :=
  c.journal.filterMap fun e => if e.1 = i then some e.2 else none

/-- Call `i` was `call` and has this result. -/
def Returned (c : Config σ ε α κ) (i : Nat) (call : κ) (r : Except ε α) : Prop :=
  ∃ p, c.calls[i]? = some (call, p) ∧ p.result? = some r

/-- Call `i` has no result before this event, and this one after it. -/
def Returns (c : Config σ ε α κ) (event : Event κ τ) (i : Nat) (call : κ) (r : Except ε α) :
    Prop :=
  (∀ call' r', ¬ c.Returned i call' r') ∧ (c.step body environment event).Returned i call r

end Config

/-! ### Every call of every run -/

/-- Each call meets its obligation on its own, and the environment keeps to the protocol. -/
structure Verified (P : Protocol σ κ) (Q : Nat → κ → Post σ ε α)
    (body : Nat → κ → Prog σ ε α) (environment : τ → σ → σ) : Prop where
  /-- A call can be made in any store that keeps the invariant. -/
  calls : ∀ i call s, P.inv s → Holds P i call (Q i call) (body i call) [] s
  /-- The environment keeps the invariant. -/
  inv : ∀ e s, P.inv s → P.inv (environment e s)
  /-- Every call may rely on the environment. -/
  rely : ∀ e i s, P.inv s → P.rely i s (environment e s)
  /-- The environment moves the store on. -/
  evolves : ∀ e s, P.inv s → P.evolves s (environment e s)

/-- What is true after every run. -/
structure Sound (P : Protocol σ κ) (Q : Nat → κ → Post σ ε α) (c : Config σ ε α κ) : Prop where
  /-- The store keeps its invariant. -/
  inv : P.inv c.store
  /-- Each call still meets its obligation, from the store it last moved in. -/
  calls : ∀ i call p, c.calls[i]? = some (call, p) →
    ∃ s, P.rely i s c.store ∧ Holds P i call (Q i call) p (c.own i) s
  /-- Every window belongs to a call that was made, and is as that call guarantees. -/
  windows : ∀ e ∈ c.journal, ∃ call p own rest, c.calls[e.1]? = some (call, p) ∧
    c.own e.1 = own ++ e.2 :: rest ∧ P.guar e.1 call own e.2.1 e.2.2
  /-- The windows of the journal followed one another. -/
  ordered : c.journal.Pairwise fun e f => P.evolves e.2.2 f.2.1
  /-- The windows of the journal are in the past. -/
  past : ∀ e ∈ c.journal, P.evolves e.2.1 e.2.2 ∧ P.evolves e.2.2 c.store

namespace Config

variable {body environment} {P : Protocol σ κ} {Q : Nat → κ → Post σ ε α} {c : Config σ ε α κ}

theorem mem_own {i : Nat} {w : σ × σ} : w ∈ c.own i ↔ (i, w) ∈ c.journal := by
  unfold own
  rw [List.mem_filterMap]
  constructor
  · rintro ⟨⟨j, w'⟩, hmem, hif⟩
    by_cases h : j = i
    · subst h
      simp only [if_true, Option.some.injEq] at hif
      exact hif ▸ hmem
    · simp [h] at hif
  · intro hmem
    exact ⟨(i, w), hmem, by simp⟩

/-- Where a window of a call stands in the journal. -/
theorem own_split {i : Nat} {before after : List (σ × σ)} {w : σ × σ}
    (h : c.own i = before ++ w :: after) : ∃ earlier later,
      c.journal = earlier ++ (i, w) :: later ∧ ∀ e ∈ later, e.1 = i → e.2 ∈ after := by
  obtain ⟨earlier, rest, hjournal, -, hrest⟩ := List.filterMap_eq_append_iff.mp h
  obtain ⟨skipped, ⟨j, w'⟩, later, rfl, -, hfound, hlater⟩ := List.filterMap_eq_cons_iff.mp hrest
  by_cases hj : j = i
  · subst hj
    obtain rfl : w' = w := by simpa using hfound
    refine ⟨earlier ++ skipped, later, by simp [hjournal], ?_⟩
    intro e he hsame
    rw [← hlater, List.mem_filterMap]
    exact ⟨e, he, if_pos hsame⟩
  · simp [hj] at hfound

/-- Resuming a call does nothing or runs its next window. -/
theorem resume_cases (c : Config σ ε α κ) (i : Nat) :
    c.resume i = c ∨ ∃ call ready act next,
      c.calls[i]? = some (call, .window ready act next) ∧ ready c.store = true ∧
        c.resume i =
          { store := act c.store
            calls := c.calls.set i (call, next c.store)
            journal := c.journal ++ [(i, c.store, act c.store)] } := by
  unfold resume
  cases h : c.calls[i]? with
  | none => exact .inl rfl
  | some entry =>
      obtain ⟨call, p⟩ := entry
      cases p with
      | ret a => exact .inl rfl
      | raise e => exact .inl rfl
      | window ready act next =>
          by_cases hready : ready c.store = true
          · refine .inr ⟨call, ready, act, next, rfl, hready, ?_⟩
            simp only [hready, if_true]
          · left
            simp only [hready, Bool.false_eq_true, if_false]

/-- A call stays the call that was made. -/
theorem resume_call {i : Nat} {call : κ} {p : Prog σ ε α} (h : c.calls[i]? = some (call, p))
    (j : Nat) : ∃ p', (c.resume j).calls[i]? = some (call, p') := by
  obtain hsame | ⟨call', ready, act, next, hj, -, hmoved⟩ := resume_cases c j
  · rw [hsame]
    exact ⟨p, h⟩
  rw [hmoved]
  by_cases hij : j = i
  · subst hij
    obtain ⟨rfl, -⟩ := Prod.mk.inj (Option.some.inj (h.symm.trans hj))
    exact ⟨next c.store, List.getElem?_set_self (List.getElem?_eq_some_iff.mp h).1⟩
  · exact ⟨p, (List.getElem?_set_ne hij).trans h⟩

/-- The calls of a run are those that its events made. -/
theorem runAll_calls (events : List (Event κ τ)) : ∀ (c : Config σ ε α κ),
    (c.runAll body environment events).calls.map (·.1)
      = c.calls.map (·.1) ++ events.filterMap Event.call? := by
  induction events with
  | nil =>
      intro c
      simp [runAll]
  | cons event rest ih =>
      intro c
      have hstep : (c.step body environment event).calls.map (·.1)
          = c.calls.map (·.1) ++ event.call?.toList := by
        cases event with
        | start call => simp [step, Event.call?]
        | environment e => simp [step, Event.call?]
        | resume i =>
            show (c.resume i).calls.map (·.1) = _
            obtain hsame | ⟨call, ready, act, next, hi, -, hmoved⟩ := resume_cases c i
            · simp [hsame, Event.call?]
            · have hcall : c.calls.map (·.1) = (c.calls.map (·.1)).set i call := by
                refine List.ext_getElem? fun j => ?_
                by_cases hij : i = j
                · subst hij
                  have hlt := (List.getElem?_eq_some_iff.mp hi).1
                  rw [List.getElem?_set_self (by simpa using hlt)]
                  simp [hi]
                · rw [List.getElem?_set_ne hij]
              rw [hmoved, List.map_set, ← hcall]
              simp [Event.call?]
      refine (ih (c.step body environment event)).trans ?_
      rw [hstep, List.append_assoc, List.filterMap_cons]
      cases event.call? <;> rfl

/-- What no window has changed since some window of the journal is as that window left it. -/
def UnchangedSince {β : Type} (f : σ → β) (c : Config σ ε α κ) : Prop :=
  ∀ before e after, c.journal = before ++ e :: after → (∀ x ∈ after, f x.2.2 = f x.2.1) →
    f c.store = f e.2.2

theorem UnchangedSince.step {β : Type} {f : σ → β} (henv : ∀ e s, f (environment e s) = f s)
    {c : Config σ ε α κ} (h : UnchangedSince f c) (event : Event κ τ) :
    UnchangedSince f (c.step body environment event) := by
  intro before e after hsplit hkept
  cases event with
  | start call => exact h before e after hsplit hkept
  | environment x => exact (henv x c.store).trans (h before e after hsplit hkept)
  | resume i =>
      show f (c.resume i).store = f e.2.2
      have hsplit : (c.resume i).journal = before ++ e :: after := hsplit
      obtain hsame | ⟨call, ready, act, next, -, -, hmoved⟩ := resume_cases c i
      · rw [hsame] at hsplit ⊢
        exact h before e after hsplit hkept
      rw [hmoved] at hsplit ⊢
      rcases List.eq_nil_or_concat after with rfl | ⟨later, x, rfl⟩
      · have hlast := (List.append_inj' hsplit rfl).2
        rw [← (List.cons.inj hlast).1]
      · have hsplit : c.journal ++ [(i, c.store, act c.store)] = (before ++ e :: later) ++ [x] := by
          simpa using hsplit
        obtain ⟨hbefore, hlast⟩ := List.append_inj' hsplit rfl
        have hnew := hkept x (by simp)
        rw [← (List.cons.inj hlast).1] at hnew
        exact hnew.trans (h before e later hbefore fun y hy => hkept y (by simp [hy]))

/-- What the environment leaves alone changes by windows only. -/
theorem runAll_unchangedSince {β : Type} {f : σ → β} (henv : ∀ e s, f (environment e s) = f s)
    (s : σ) (events : List (Event κ τ)) :
    UnchangedSince f ((initial s : Config σ ε α κ).runAll body environment events) := by
  have hall : ∀ {c : Config σ ε α κ}, UnchangedSince f c →
      UnchangedSince f (c.runAll body environment events) := by
    induction events with
    | nil => exact fun h => h
    | cons event rest ih => exact fun h => ih (h.step henv event)
  refine hall ?_
  intro before e after hsplit
  simp [initial] at hsplit

/-- The journal only grows. -/
theorem runAll_journal (events : List (Event κ τ)) :
    ∀ (c : Config σ ε α κ), ∀ e ∈ c.journal, e ∈ (c.runAll body environment events).journal := by
  induction events with
  | nil =>
      intro c e he
      exact he
  | cons event rest ih =>
      intro c e he
      refine ih (c.step body environment event) e ?_
      cases event with
      | start call => exact he
      | environment e' => exact he
      | resume i =>
          change e ∈ (c.resume i).journal
          obtain h | ⟨call, ready, act, next, -, -, h⟩ := resume_cases c i
          · rw [h]
            exact he
          · rw [h]
            exact List.mem_append_left _ he

/-- A window finds the store as some earlier part of the run left it. -/
theorem runAll_found (events : List (Event κ τ)) :
    ∀ (c : Config σ ε α κ), ∀ e ∈ (c.runAll body environment events).journal,
      e ∈ c.journal ∨ ∃ before after, events = before ++ after ∧
        e.2.1 = (c.runAll body environment before).store := by
  induction events with
  | nil =>
      intro c e he
      exact .inl he
  | cons event rest ih =>
      intro c e he
      rcases ih (c.step body environment event) e he with he | ⟨before, after, rfl, hstore⟩
      · have hnew : e ∈ c.journal ∨ e.2.1 = c.store := by
          cases event with
          | start call => exact .inl he
          | environment e' => exact .inl he
          | resume i =>
              have he : e ∈ (c.resume i).journal := he
              obtain h | ⟨call, ready, act, next, -, -, h⟩ := resume_cases c i
              · exact .inl (h ▸ he)
              · rw [h] at he
                rcases List.mem_append.mp he with he | he
                · exact .inl he
                · rw [List.mem_singleton.mp he]
                  exact .inr rfl
        exact hnew.imp_right fun h => ⟨[], event :: rest, rfl, h⟩
      · exact .inr ⟨event :: before, after, rfl, hstore⟩

end Config

namespace Sound

open Config

variable {body environment} {P : Protocol σ κ} {Q : Nat → κ → Post σ ε α} {c : Config σ ε α κ}

/-- A call that has not been made has run no window. -/
theorem own_eq_nil (hs : Sound P Q c) {i : Nat} (hi : c.calls.length ≤ i) : c.own i = [] := by
  rw [List.eq_nil_iff_forall_not_mem]
  intro w hw
  obtain ⟨call, p, _, _, hcall, -⟩ := hs.windows _ (mem_own.mp hw)
  have := (List.getElem?_eq_some_iff.mp hcall).1
  omega

theorem initial {s : σ} (hinv : P.inv s) : Sound P Q (Config.initial s) where
  inv := hinv
  calls := by
    intro i call p h
    simp [Config.initial] at h
  windows := by simp [Config.initial]
  ordered := List.Pairwise.nil
  past := by simp [Config.initial]

theorem start (hv : Verified P Q body environment) (hs : Sound P Q c) (call : κ) :
    Sound P Q (c.step body environment (.start call)) where
  inv := hs.inv
  calls := by
    intro i call' p h
    change (c.calls ++ _)[i]? = _ at h
    by_cases hi : i < c.calls.length
    · rw [List.getElem?_append_left hi] at h
      exact hs.calls i call' p h
    · -- the new call: it starts now, and has run nothing
      rw [List.getElem?_append_right (by omega), List.getElem?_singleton] at h
      by_cases hlast : i - c.calls.length = 0
      · simp only [hlast, if_true, Option.some.injEq, Prod.mk.injEq] at h
        obtain ⟨rfl, rfl⟩ := h
        have hown : c.own i = [] := hs.own_eq_nil (by omega)
        obtain rfl : i = c.calls.length := by omega
        refine ⟨c.store, P.relyRefl _ _, ?_⟩
        change Holds P _ _ _ _ (c.own _) _
        rw [hown]
        exact hv.calls _ call c.store hs.inv
      · simp [hlast] at h
  windows := by
    intro e he
    obtain ⟨call', p, own, rest, hcall, hown, hguar⟩ := hs.windows e he
    refine ⟨call', p, own, rest, ?_, hown, hguar⟩
    change (c.calls ++ _)[e.1]? = _
    rw [List.getElem?_append_left (List.getElem?_eq_some_iff.mp hcall).1]
    exact hcall
  ordered := hs.ordered
  past := hs.past

theorem act (hv : Verified P Q body environment) (hs : Sound P Q c) (e : τ) :
    Sound P Q (c.step body environment (.environment e)) where
  inv := hv.inv e c.store hs.inv
  calls := by
    intro i call p h
    obtain ⟨s, hrely, hholds⟩ := hs.calls i call p h
    exact ⟨s, P.relyTrans i _ _ _ hrely (hv.rely e i c.store hs.inv), hholds⟩
  windows := hs.windows
  ordered := hs.ordered
  past := by
    intro w hw
    obtain ⟨hwindow, hlater⟩ := hs.past w hw
    exact ⟨hwindow, P.evolvesTrans _ _ _ hlater (hv.evolves e c.store hs.inv)⟩

/-- What the next window of a waiting call does: the store and the call afterwards. -/
theorem next_window (hs : Sound P Q c) {i : Nat} {call : κ} {ready : σ → Bool} {act : σ → σ}
    {next : σ → Prog σ ε α} (h : c.calls[i]? = some (call, .window ready act next))
    (hready : ready c.store = true) :
    P.inv (act c.store) ∧ P.guar i call (c.own i) c.store (act c.store) ∧
      Holds P i call (Q i call) (next c.store) (c.own i ++ [(c.store, act c.store)]) (act c.store) := by
  obtain ⟨s, hrely, hholds⟩ := hs.calls i call _ h
  exact hholds c.store hrely hs.inv hready

theorem own_window (c : Config σ ε α κ) (i j : Nat) (t : σ) (calls : List (κ × Prog σ ε α)) :
    Config.own (⟨t, calls, c.journal ++ [(i, c.store, t)]⟩ : Config σ ε α κ) j
      = if i = j then c.own j ++ [(c.store, t)] else c.own j := by
  unfold Config.own
  rw [List.filterMap_append]
  by_cases h : i = j
  · simp [h]
  · simp [h]

/-- Resuming a call does nothing, or puts one window into the journal. -/
theorem resume_journal (c : Config σ ε α κ) (i : Nat) : c.resume i = c ∨
    (c.resume i).journal = c.journal ++ [(i, c.store, (c.resume i).store)] ∧
      ∀ j, (c.resume i).own j
        = if i = j then c.own j ++ [(c.store, (c.resume i).store)] else c.own j := by
  obtain h | ⟨call, ready, act, next, -, -, h⟩ := resume_cases c i
  · exact .inl h
  · rw [h]
    exact .inr ⟨rfl, fun j => own_window c i j _ _⟩

theorem resume (hs : Sound P Q c) (i : Nat) : Sound P Q (c.resume i) := by
  obtain h | ⟨call, ready, act, next, hcall, hready, h⟩ := resume_cases c i
  · rw [h]
    exact hs
  obtain ⟨hinv, hguar, hholds⟩ := hs.next_window hcall hready
  have hevolves := P.guarEvolves i _ _ _ _ hguar
  rw [h]
  refine ⟨hinv, ?_, ?_, ?_, ?_⟩
  · intro j call' p hj
    rw [own_window]
    by_cases hij : i = j
    · subst hij
      have hlt : i < c.calls.length := (List.getElem?_eq_some_iff.mp hcall).1
      rw [List.getElem?_set_self hlt] at hj
      obtain ⟨rfl, rfl⟩ := Prod.mk.inj (Option.some.inj hj)
      rw [if_pos rfl]
      exact ⟨act c.store, P.relyRefl _ _, hholds⟩
    · rw [List.getElem?_set_ne hij] at hj
      obtain ⟨s, hrely, hold⟩ := hs.calls j call' p hj
      rw [if_neg hij]
      exact ⟨s, P.relyTrans j _ _ _ hrely (P.guarRely i _ _ j _ _ hij hguar), hold⟩
  · intro e he
    have hlt : i < c.calls.length := (List.getElem?_eq_some_iff.mp hcall).1
    rw [own_window]
    rcases List.mem_append.mp he with he | he
    · obtain ⟨call', p, own, rest, hcall', hown, hguar'⟩ := hs.windows e he
      by_cases hie : i = e.1
      · subst hie
        obtain ⟨rfl, -⟩ := Prod.mk.inj (Option.some.inj (hcall.symm.trans hcall'))
        refine ⟨call, next c.store, own, rest ++ [(c.store, act c.store)],
          List.getElem?_set_self hlt, ?_, hguar'⟩
        rw [if_pos rfl, hown]
        simp
      · rw [if_neg hie]
        exact ⟨call', p, own, rest, (List.getElem?_set_ne hie).trans hcall', hown, hguar'⟩
    · rw [List.mem_singleton.mp he, if_pos rfl]
      exact ⟨call, next c.store, c.own i, [], List.getElem?_set_self hlt, rfl, hguar⟩
  · refine List.pairwise_append.mpr ⟨hs.ordered, List.pairwise_singleton _ _, ?_⟩
    intro e he f hf
    rw [List.mem_singleton.mp hf]
    exact (hs.past e he).2
  · intro e he
    rcases List.mem_append.mp he with he | he
    · obtain ⟨hwindow, hlater⟩ := hs.past e he
      exact ⟨hwindow, P.evolvesTrans _ _ _ hlater hevolves⟩
    · rw [List.mem_singleton.mp he]
      exact ⟨hevolves, P.evolvesRefl _⟩

theorem step (hv : Verified P Q body environment) (hs : Sound P Q c) (event : Event κ τ) :
    Sound P Q (c.step body environment event) := by
  cases event with
  | start call => exact hs.start hv call
  | resume i => exact hs.resume i
  | environment e => exact hs.act hv e

/-- **In every run every call meets its obligation.** -/
theorem runAll (hv : Verified P Q body environment) (events : List (Event κ τ)) :
    ∀ {c : Config σ ε α κ}, Sound P Q c → Sound P Q (c.runAll body environment events) := by
  induction events with
  | nil =>
      intro c hs
      exact hs
  | cons event rest ih =>
      intro c hs
      exact ih (hs.step hv event)

theorem step_evolves (hv : Verified P Q body environment) (hs : Sound P Q c)
    (event : Event κ τ) : P.evolves c.store (c.step body environment event).store := by
  cases event with
  | start call => exact P.evolvesRefl _
  | environment e => exact hv.evolves e c.store hs.inv
  | resume i =>
      change P.evolves c.store (c.resume i).store
      obtain h | ⟨call, ready, act, next, hcall, hready, h⟩ := resume_cases c i
      · rw [h]
        exact P.evolvesRefl _
      · obtain ⟨-, hguar, -⟩ := hs.next_window hcall hready
        rw [h]
        exact P.guarEvolves i _ _ _ _ hguar

/-- Resuming a call does nothing, or what the call guarantees. -/
theorem resume_guar (hs : Sound P Q c) (i : Nat) :
    c.resume i = c ∨ ∃ call p, c.calls[i]? = some (call, p) ∧
      P.guar i call (c.own i) c.store (c.resume i).store := by
  obtain h | ⟨call, ready, act, next, hcall, hready, h⟩ := resume_cases c i
  · exact .inl h
  · refine .inr ⟨call, _, hcall, ?_⟩
    rw [h]
    exact (hs.next_window hcall hready).2.1

/-- Any two points of a run are related. -/
theorem runAll_evolves (hv : Verified P Q body environment) (events : List (Event κ τ)) :
    ∀ {c : Config σ ε α κ}, Sound P Q c →
      P.evolves c.store (c.runAll body environment events).store := by
  induction events with
  | nil =>
      intro c _
      exact P.evolvesRefl _
  | cons event rest ih =>
      intro c hs
      exact P.evolvesTrans _ _ _ (hs.step_evolves hv event) (ih (hs.step hv event))

/-- **A call meets its postcondition in the store it returns in.** -/
theorem returns (hv : Verified P Q body environment) (hs : Sound P Q c) {event : Event κ τ}
    {i : Nat} {call : κ} {r : Except ε α} (h : Returns body environment c event i call r) :
    Q i call ((c.step body environment event).own i) r (c.step body environment event).store := by
  obtain ⟨hbefore, p, hp, hr⟩ := h
  -- a call that was there before and did not move had no result, so this one moved
  have hmoved : c.calls[i]? ≠ some (call, p) := fun h => hbefore call r ⟨p, h, hr⟩
  have hend : ∀ {own : List (σ × σ)} {s : σ}, Holds P i call (Q i call) p own s → Q i call own r s := by
    intro own s hholds
    cases p with
    | ret a => exact Option.some.inj hr ▸ hholds
    | raise e => exact Option.some.inj hr ▸ hholds
    | window ready act next => cases hr
  cases event with
  | environment e => exact absurd hp hmoved
  | start started =>
      obtain ⟨s, -, hholds⟩ := (hs.start hv started).calls i call p hp
      change (c.calls ++ _)[i]? = _ at hp
      by_cases hi : i < c.calls.length
      · rw [List.getElem?_append_left hi] at hp
        exact absurd hp hmoved
      · rw [List.getElem?_append_right (by omega), List.getElem?_singleton] at hp
        by_cases hlast : i - c.calls.length = 0
        · simp only [hlast, if_true, Option.some.injEq, Prod.mk.injEq] at hp
          obtain ⟨rfl, rfl⟩ := hp
          obtain rfl : i = c.calls.length := by omega
          change Q _ _ (c.own _) r c.store
          rw [hs.own_eq_nil (Nat.le_refl _)]
          exact hend (hv.calls _ started c.store hs.inv)
        · simp [hlast] at hp
  | resume j =>
      change (c.resume j).calls[i]? = _ at hp
      change Q _ _ ((c.resume j).own i) r (c.resume j).store
      obtain h | ⟨call', ready, act, next, hcall, hready, h⟩ := resume_cases c j
      · rw [h] at hp
        exact absurd hp hmoved
      · rw [h] at hp ⊢
        rw [own_window]
        by_cases hij : j = i
        · subst hij
          rw [List.getElem?_set_self (List.getElem?_eq_some_iff.mp hcall).1] at hp
          obtain ⟨rfl, rfl⟩ := Prod.mk.inj (Option.some.inj hp)
          rw [if_pos rfl]
          exact hend (hs.next_window hcall hready).2.2
        · rw [List.getElem?_set_ne hij] at hp
          exact absurd hp hmoved

/-- A call that has returned met its postcondition in an earlier store. -/
theorem returned (hs : Sound P Q c) {i : Nat} {call : κ} {r : Except ε α}
    (h : c.Returned i call r) : ∃ s, P.rely i s c.store ∧ Q i call (c.own i) r s := by
  obtain ⟨p, hp, hr⟩ := h
  obtain ⟨s, hrely, hholds⟩ := hs.calls i call p hp
  cases p with
  | ret a => exact ⟨s, hrely, Option.some.inj hr ▸ hholds⟩
  | raise e => exact ⟨s, hrely, Option.some.inj hr ▸ hholds⟩
  | window ready act next => cases hr

/-- **What is never unmade is made by one window, so by one call.** -/
theorem one_maker (hs : Sound P Q c) {M : σ → Prop} (hkeep : ∀ s t, P.evolves s t → M s → M t)
    {i j : Nat} {w v : σ × σ} (hw : w ∈ c.own i) (hv : v ∈ c.own j)
    (hmakes : ¬ M w.1 ∧ M w.2) (hmakes' : ¬ M v.1 ∧ M v.2) : i = j := by
  by_contra hne
  have hapart : c.journal.Pairwise fun e f => ¬ ((¬ M e.2.1 ∧ M e.2.2) ∧ ¬ M f.2.1 ∧ M f.2.2) := by
    refine hs.ordered.imp ?_
    rintro e f hlater ⟨⟨-, hmade⟩, hnot, -⟩
    exact hnot (hkeep _ _ hlater hmade)
  have : Std.Symm fun e f : Nat × σ × σ =>
      ¬ ((¬ M e.2.1 ∧ M e.2.2) ∧ ¬ M f.2.1 ∧ M f.2.2) := ⟨fun e f h h' => h ⟨h'.2, h'.1⟩⟩
  exact hapart.forall (mem_own.mp hw) (mem_own.mp hv)
    (fun h => hne (congrArg Prod.fst h)) ⟨hmakes, hmakes'⟩

/-- **What is true and was not true at the start was made by a window**, unless the
environment can make it. -/
theorem exists_maker (hv : Verified P Q body environment) {M : σ → Prop}
    (henv : ∀ e s, P.inv s → ¬ M s → ¬ M (environment e s)) (events : List (Event κ τ)) :
    ∀ {c : Config σ ε α κ}, Sound P Q c → ¬ M c.store → M (c.runAll body environment events).store →
      ∃ e ∈ (c.runAll body environment events).journal, ¬ M e.2.1 ∧ M e.2.2 := by
  induction events with
  | nil =>
      intro c _ hnot hmade
      exact absurd hmade hnot
  | cons event rest ih =>
      intro c hs hnot hmade
      by_cases hnow : M (c.step body environment event).store
      · -- this event made it, and the journal of what follows keeps its window
        cases event with
        | start call => exact absurd hnow hnot
        | environment e => exact absurd hnow (henv e c.store hs.inv hnot)
        | resume i =>
            obtain h | ⟨call, ready, act, next, hcall, hready, h⟩ := resume_cases c i
            · have hnow' : M (c.resume i).store := hnow
              rw [h] at hnow'
              exact absurd hnow' hnot
            · have hnow' : M (c.resume i).store := hnow
              refine ⟨(i, c.store, (c.resume i).store), ?_, hnot, hnow'⟩
              refine runAll_journal rest (c.resume i) _ ?_
              rw [h]
              simp
      · exact ih (hs.step hv event) hnow hmade

end Sound

/-! ### Windows by their kind -/

namespace Config

variable {body environment} {W : Prog σ ε α → Prop} {c : Config σ ε α κ}

/-- Resuming a call does nothing to the store, or what a window does that is as `W` says. -/
theorem resume_each (h : ∀ entry ∈ c.calls, entry.2.Each W) (i : Nat) :
    (c.resume i).store = c.store ∨ ∃ call ready act next,
      c.calls[i]? = some (call, .window ready act next) ∧ W (.window ready act next) ∧
        (c.resume i).store = act c.store := by
  obtain hsame | ⟨call, ready, act, next, hcall, -, hstep⟩ := resume_cases c i
  · rw [hsame]
    exact .inl rfl
  · exact .inr ⟨call, ready, act, next, hcall, (h _ (List.mem_of_getElem? hcall)).1,
      congrArg Config.store hstep⟩

/-- The windows of the calls of a run are as those of the bodies. -/
theorem step_each (hbody : ∀ i call, (body i call).Each W) (event : Event κ τ)
    (h : ∀ entry ∈ c.calls, entry.2.Each W) :
    ∀ entry ∈ (c.step body environment event).calls, entry.2.Each W := by
  cases event with
  | start call =>
      intro entry hentry
      rcases List.mem_append.mp hentry with hentry | hentry
      · exact h entry hentry
      · rw [List.mem_singleton.mp hentry]
        exact hbody _ call
  | environment e => exact h
  | resume i =>
      show ∀ entry ∈ (c.resume i).calls, entry.2.Each W
      obtain hsame | ⟨call, ready, act, next, hcall, -, hstep⟩ := resume_cases c i
      · rw [hsame]
        exact h
      · rw [hstep]
        intro entry hentry
        rcases List.mem_or_eq_of_mem_set hentry with hentry | rfl
        · exact h entry hentry
        · exact (h _ (List.mem_of_getElem? hcall)).2 c.store

/-- What is left of a call in a run has the kind of windows that its body has. -/
theorem runAll_each {W : Nat → κ → Prog σ ε α → Prop}
    (hbody : ∀ i call, (body i call).Each (W i call)) (events : List (Event κ τ)) :
    ∀ {c : Config σ ε α κ},
      (∀ i call p, c.calls[i]? = some (call, p) → Prog.Each (W i call) p) →
      ∀ i call p, (c.runAll body environment events).calls[i]? = some (call, p) →
        Prog.Each (W i call) p := by
  induction events with
  | nil => exact fun h => h
  | cons event rest ih =>
      intro c h
      refine ih (c := c.step body environment event) ?_
      intro i call p hp
      cases event with
      | environment e => exact h i call p hp
      | start started =>
          change (c.calls ++ _)[i]? = _ at hp
          by_cases hi : i < c.calls.length
          · rw [List.getElem?_append_left hi] at hp
            exact h i call p hp
          · rw [List.getElem?_append_right (by omega), List.getElem?_singleton] at hp
            by_cases hlast : i - c.calls.length = 0
            · simp only [hlast, if_true, Option.some.injEq, Prod.mk.injEq] at hp
              obtain ⟨rfl, rfl⟩ := hp
              obtain rfl : i = c.calls.length := by omega
              exact hbody _ started
            · simp [hlast] at hp
      | resume j =>
          change (c.resume j).calls[i]? = _ at hp
          obtain hsame | ⟨called, ready, act, next, hcall, -, hmoved⟩ := resume_cases c j
          · rw [hsame] at hp
            exact h i call p hp
          · rw [hmoved] at hp
            by_cases hij : j = i
            · subst hij
              rw [List.getElem?_set_self (List.getElem?_eq_some_iff.mp hcall).1] at hp
              obtain ⟨rfl, rfl⟩ := Prod.mk.inj (Option.some.inj hp)
              exact (h _ _ _ hcall).2 c.store
            · rw [List.getElem?_set_ne hij] at hp
              exact h i call p hp

end Config

end Runs

end ControlPlane
