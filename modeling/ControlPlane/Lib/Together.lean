/-
Calls under several protocols.

Two parts of a system are verified each on its own, against a protocol that says what its calls
rely on and what the others must leave alone.  `Protocol.among` takes such a protocol to a larger
kind of calls, where the added ones do only what a relation allows, and `Protocol.both` joins two
protocols for the same calls.  `Holds.among`, `Holds.among_acts` and `Holds.both` bring the
obligations of the calls along, so that nothing is verified twice.
-/
import ControlPlane.Lib.Acting

namespace ControlPlane

variable {σ ε κ κ' α β : Type}

/-! ### Windows of which nothing is found -/

/-- A part that looks, before a rest that moves the store for the values it may return. -/
theorem Prog.Acts.looks_bind {R : σ → σ → Prop} (hR : ∀ s, R s s) {Q : Except ε α → Prop}
    {f : α → Prog σ ε β} : ∀ {p : Prog σ ε α}, p.Looks Q → (∀ a, Q (.ok a) → Acts R (f a)) →
      Acts R (p >>= f)
  | .ret a, h, hf => hf a h
  | .raise _, _, _ => trivial
  | .window _ act _, h, hf => by
      refine ⟨fun s => ?_, fun s => Prog.Acts.looks_bind hR (h.2 s) hf⟩
      rw [h.1 s]
      exact hR s

/-- A call whose windows are all allowed keeps to the protocol, whatever it returns. -/
theorem Holds.of_acts {P : Protocol σ κ} {i : Nat} {call : κ} {R : σ → σ → Prop}
    (hinv : ∀ s t, P.inv s → R s t → P.inv t)
    (hguar : ∀ own s t, P.inv s → R s t → P.guar i call own s t) :
    ∀ {p : Prog σ ε α} {own : List (σ × σ)} {s : σ}, p.Acts R →
      Holds P i call (fun _ _ _ => True) p own s
  | .ret _, _, _, _ => trivial
  | .raise _, _, _, _ => trivial
  | .window _ act next, own, _, h => by
      intro t _ ht _
      exact ⟨hinv t _ ht (h.1 t), hguar own t _ ht (h.1 t), of_acts hinv hguar (h.2 t)⟩

/-! ### More calls -/

/-- The protocol of some of the calls, where the others do what `R` allows.  A window also
guarantees that it has found the invariant. -/
def Protocol.among (P : Protocol σ κ) (which : κ' → Option κ) (R : σ → σ → Prop)
    (hrely : ∀ i s t, R s t → P.rely i s t) (hevolves : ∀ s t, R s t → P.evolves s t) :
    Protocol σ κ' where
  inv := P.inv
  guar := fun i call own s t => P.inv s ∧ (∀ c, which call = some c → P.guar i c own s t) ∧
    (which call = none → R s t)
  rely := P.rely
  relyRefl := P.relyRefl
  relyTrans := P.relyTrans
  guarRely := by
    rintro i call own j s t hne ⟨-, hsome, hnone⟩
    cases hwhich : which call with
    | none => exact hrely j s t (hnone hwhich)
    | some c => exact P.guarRely i c own j s t hne (hsome c hwhich)
  evolves := P.evolves
  evolvesRefl := P.evolvesRefl
  evolvesTrans := P.evolvesTrans
  guarEvolves := by
    rintro i call own s t ⟨-, hsome, hnone⟩
    cases hwhich : which call with
    | none => exact hevolves s t (hnone hwhich)
    | some c => exact P.guarEvolves i c own s t (hsome c hwhich)

section Among

variable {P : Protocol σ κ} {which : κ' → Option κ} {R : σ → σ → Prop}
  {hrely : ∀ i s t, R s t → P.rely i s t} {hevolves : ∀ s t, R s t → P.evolves s t}
  {i : Nat} {call : κ'} {p : Prog σ ε α} {own : List (σ × σ)} {s : σ}

/-- A call of the protocol. -/
theorem Holds.among {c : κ} (hwhich : which call = some c) {Q : Post σ ε α}
    (h : Holds P i c Q p own s) : Holds (P.among which R hrely hevolves) i call Q p own s := by
  have hguar : ∀ own s t, (P.among which R hrely hevolves).inv s → P.inv t →
      P.guar i c own s t → (P.among which R hrely hevolves).inv t ∧
        (P.among which R hrely hevolves).guar i call own s t := by
    intro own s t hs ht hguar
    refine ⟨ht, hs, fun c' hsame => ?_, fun hnone => ?_⟩
    · obtain rfl := Option.some.inj (hwhich.symm.trans hsame)
      exact hguar
    · rw [hwhich] at hnone
      cases hnone
  exact @Holds.translate σ κ ε α P i c κ' (P.among which R hrely hevolves) i call
    (fun _ _ hmoves => hmoves) (fun _ hinv => hinv) hguar Q p own s h

/-- One of the others. -/
theorem Holds.among_acts (hwhich : which call = none) (hinv : ∀ s t, P.inv s → R s t → P.inv t)
    (h : p.Acts R) :
    Holds (P.among which R hrely hevolves) i call (fun _ _ _ => True) p own s := by
  have hguar : ∀ own s t, P.inv s → R s t → (P.among which R hrely hevolves).guar i call own s t := by
    refine fun own s t hs hmoves => ⟨hs, fun c hsome => ?_, fun _ => hmoves⟩
    rw [hwhich] at hsome
    cases hsome
  exact @Holds.of_acts σ ε κ' α (P.among which R hrely hevolves) i call R hinv hguar p own s h

end Among

/-! ### Two protocols -/

/-- What both protocols ask. -/
def Protocol.both (P P' : Protocol σ κ) : Protocol σ κ where
  inv := fun s => P.inv s ∧ P'.inv s
  guar := fun i call own s t => P.guar i call own s t ∧ P'.guar i call own s t
  rely := fun i s t => P.rely i s t ∧ P'.rely i s t
  relyRefl := fun i s => ⟨P.relyRefl i s, P'.relyRefl i s⟩
  relyTrans := fun i s t u h h' =>
    ⟨P.relyTrans i s t u h.1 h'.1, P'.relyTrans i s t u h.2 h'.2⟩
  guarRely := fun i call own j s t hne h =>
    ⟨P.guarRely i call own j s t hne h.1, P'.guarRely i call own j s t hne h.2⟩
  evolves := fun s t => P.evolves s t ∧ P'.evolves s t
  evolvesRefl := fun s => ⟨P.evolvesRefl s, P'.evolvesRefl s⟩
  evolvesTrans := fun s t u h h' =>
    ⟨P.evolvesTrans s t u h.1 h'.1, P'.evolvesTrans s t u h.2 h'.2⟩
  guarEvolves := fun i call own s t h =>
    ⟨P.guarEvolves i call own s t h.1, P'.guarEvolves i call own s t h.2⟩

/-- **A call that keeps to two protocols keeps to both at once.** -/
theorem Holds.both {P P' : Protocol σ κ} {i : Nat} {call : κ} {Q Q' : Post σ ε α} :
    ∀ {p : Prog σ ε α} {own : List (σ × σ)} {s : σ}, Holds P i call Q p own s →
      Holds P' i call Q' p own s →
      Holds (P.both P') i call (fun own r t => Q own r t ∧ Q' own r t) p own s
  | .ret _, _, _, h, h' => ⟨h, h'⟩
  | .raise _, _, _, h, h' => ⟨h, h'⟩
  | .window _ act next, own, s, h, h' => by
      intro t hrely hinv hready
      obtain ⟨hleft, hguar, hnext⟩ := h t hrely.1 hinv.1 hready
      obtain ⟨hright, hguar', hnext'⟩ := h' t hrely.2 hinv.2 hready
      exact ⟨⟨hleft, hright⟩, ⟨hguar, hguar'⟩, Holds.both hnext hnext'⟩

end ControlPlane
