/-
Parts of a call that only look.

Such a part leaves the store as it is in every window, so it keeps to any protocol in which a
call may do nothing.  What remains to be said about it is what it may return; `Looks` says both
at once, without a store, and `Holds.of_looks` brings it into a call.
-/
import ControlPlane.Lib.Concurrent

namespace ControlPlane

namespace Prog

variable {σ ε α β : Type}

/-- No window changes the store, and the results are as `Q` says. -/
def Looks (Q : Except ε α → Prop) : Prog σ ε α → Prop
  | ret a => Q (.ok a)
  | raise e => Q (.error e)
  | window _ act next => (∀ s, act s = s) ∧ ∀ s, Looks Q (next s)

/-- The program on a store of which its own is a part. -/
def within {τ : Type} (get : τ → σ) (set : τ → σ → τ) : Prog σ ε α → Prog τ ε α
  | ret a => ret a
  | raise e => raise e
  | window ready act next =>
      window (fun t => ready (get t)) (fun t => set t (act (get t))) fun t =>
        within get set (next (get t))

namespace Looks

theorem mono {Q Q' : Except ε α → Prop} (hq : ∀ r, Q r → Q' r) :
    ∀ {p : Prog σ ε α}, Looks Q p → Looks Q' p
  | .ret _, h => hq _ h
  | .raise _, h => hq _ h
  | .window .., h => ⟨h.1, fun s => mono hq (h.2 s)⟩

/-- The sequence of two parts that look. -/
theorem bind {Q : Except ε β → Prop} {f : α → Prog σ ε β} : ∀ {p : Prog σ ε α},
    Looks (fun r => match r with
      | .ok a => Looks Q (f a)
      | .error e => Q (.error e)) p → Looks Q (p >>= f)
  | .ret _, h => h
  | .raise _, h => h
  | .window .., h => ⟨h.1, fun s => bind (h.2 s)⟩

theorem read {Q : Except ε α → Prop} {f : σ → α} (h : ∀ s, Q (.ok (f s))) :
    Looks Q (Prog.read f : Prog σ ε α) :=
  ⟨fun _ => rfl, h⟩

theorem read_bind {Q : Except ε β → Prop} {f : σ → α} {g : α → Prog σ ε β}
    (h : ∀ s, Looks Q (g (f s))) : Looks Q (Prog.read f >>= g) :=
  ⟨fun _ => rfl, h⟩

theorem ofExcept {Q : Except ε α → Prop} {x : Except ε α} (h : Q x) :
    Looks Q (Prog.ofExcept x : Prog σ ε α) := by
  cases x with
  | ok a => exact h
  | error e => exact h

/-- A part that looks does so in a larger store. -/
theorem within {τ : Type} {get : τ → σ} {set : τ → σ → τ} (hset : ∀ t, set t (get t) = t)
    {Q : Except ε α → Prop} : ∀ {p : Prog σ ε α}, Looks Q p → Looks Q (p.within get set)
  | .ret _, h => h
  | .raise _, h => h
  | .window _ act _, h => by
      refine ⟨fun t => ?_, fun t => within hset (h.2 (get t))⟩
      show set t (act (get t)) = t
      rw [h.1 (get t), hset t]

/-- A part that looks has no window that does anything else. -/
theorem each {Q : Except ε α → Prop} {W : Prog σ ε α → Prop}
    (hW : ∀ ready act next, (∀ s, act s = s) → W (.window ready act next)) :
    ∀ {p : Prog σ ε α}, Looks Q p → p.Each W
  | .ret _, _ => trivial
  | .raise _, _ => trivial
  | .window .., h => ⟨hW _ _ _ h.1, fun s => each hW (h.2 s)⟩

end Looks

end Prog

/-- The windows that were added changed nothing. -/
def IdleSince {σ : Type} (own own' : List (σ × σ)) : Prop :=
  ∃ idle, own' = own ++ idle ∧ ∀ w ∈ idle, w.1 = w.2

theorem IdleSince.refl {σ : Type} (own : List (σ × σ)) : IdleSince own own :=
  ⟨[], by simp, by simp⟩

theorem IdleSince.extends_own {σ : Type} {own own' : List (σ × σ)} (h : IdleSince own own') :
    own <+: own' := by
  obtain ⟨idle, rfl, -⟩ := h
  exact List.prefix_append own idle

/-- One window that changes nothing, before others. -/
theorem IdleSince.cons {σ : Type} {own own' : List (σ × σ)} {s : σ}
    (h : IdleSince (own ++ [(s, s)]) own') : IdleSince own own' := by
  obtain ⟨idle, rfl, hidle⟩ := h
  refine ⟨(s, s) :: idle, by simp, ?_⟩
  intro w hw
  rcases List.mem_cons.mp hw with rfl | hw
  · rfl
  · exact hidle w hw

theorem IdleSince.trans {σ : Type} {own mid own' : List (σ × σ)} (h : IdleSince own mid)
    (h' : IdleSince mid own') : IdleSince own own' := by
  obtain ⟨idle, rfl, hidle⟩ := h
  obtain ⟨more, rfl, hmore⟩ := h'
  refine ⟨idle ++ more, List.append_assoc .., fun w hw => ?_⟩
  exact (List.mem_append.mp hw).elim (hidle w) (hmore w)

/-- A call that has only looked has still done so. -/
theorem IdleSince.looked {σ : Type} {own own' : List (σ × σ)} (h : IdleSince own own')
    (hlooked : ∀ w ∈ own, w.1 = w.2) : ∀ w ∈ own', w.1 = w.2 := by
  obtain ⟨idle, rfl, hidle⟩ := h
  exact fun w hw => (List.mem_append.mp hw).elim (hlooked w) (hidle w)

theorem IdleSince.one {σ : Type} (own : List (σ × σ)) (s : σ) : IdleSince own (own ++ [(s, s)]) :=
  IdleSince.cons (IdleSince.refl _)

/-- Some window found the store like this. -/
def Seen {σ : Type} (own : List (σ × σ)) (P : σ → Prop) : Prop := ∃ w ∈ own, P w.1

theorem Seen.later {σ : Type} {own own' : List (σ × σ)} {P : σ → Prop} (h : Seen own P)
    (hpast : own <+: own') : Seen own' P := by
  obtain ⟨w, hw, hp⟩ := h
  exact ⟨w, hpast.subset hw, hp⟩

theorem Seen.mono {σ : Type} {own : List (σ × σ)} {P P' : σ → Prop} (h : Seen own P)
    (hp : ∀ s, P s → P' s) : Seen own P' := by
  obtain ⟨w, hw, hs⟩ := h
  exact ⟨w, hw, hp w.1 hs⟩

theorem Seen.last {σ : Type} {own : List (σ × σ)} {P : σ → Prop} {s t : σ} (h : P s) :
    Seen (own ++ [(s, t)]) P :=
  ⟨(s, t), by simp, h⟩

/-- A part that looks, in a call: idle windows are added, and the store goes on as the others
move it. -/
theorem Holds.of_looks {σ κ ε α : Type} {P : Protocol σ κ} {i : Nat} {call : κ}
    (hidle : ∀ own s, P.guar i call own s s) {Q : Except ε α → Prop} :
    ∀ {p : Prog σ ε α} (own : List (σ × σ)) (s : σ), p.Looks Q →
      Holds P i call (fun own' r t => Q r ∧ IdleSince own own' ∧ P.rely i s t) p own s
  | .ret _, own, s, h => ⟨h, IdleSince.refl own, P.relyRefl i s⟩
  | .raise _, own, s, h => ⟨h, IdleSince.refl own, P.relyRefl i s⟩
  | .window _ act next, own, s, h => by
      intro t hrely hinv _
      have hact := h.1 t
      rw [hact]
      refine ⟨hinv, hidle own t, Holds.mono ?_ _ _ _ (of_looks hidle _ t (h.2 t))⟩
      rintro own' r u ⟨hq, hpast, hmoved⟩
      exact ⟨hq, hpast.cons, P.relyTrans i s t u hrely hmoved⟩

/-- A part that looks, before the rest of a call. -/
theorem Holds.looks_bind {σ κ ε α β : Type} {P : Protocol σ κ} {i : Nat} {call : κ}
    (hidle : ∀ own s, P.guar i call own s s) {Q : Except ε α → Prop} {R : Post σ ε β}
    {p : Prog σ ε α} {f : α → Prog σ ε β} {own : List (σ × σ)} {s : σ} (hp : p.Looks Q)
    (hok : ∀ a own' t, Q (.ok a) → IdleSince own own' → P.rely i s t →
      Holds P i call R (f a) own' t)
    (herror : ∀ e own' t, Q (.error e) → IdleSince own own' → P.rely i s t → R own' (.error e) t) :
    Holds P i call R (p >>= f) own s := by
  refine Holds.bind _ _ _ (Holds.mono ?_ _ _ _ (Holds.of_looks hidle own s hp))
  rintro own' (e | a) t ⟨hq, hpast, hrely⟩
  · exact herror e own' t hq hpast hrely
  · exact hok a own' t hq hpast hrely

/-! ### What a part that looks has seen -/

section Finds

variable {σ κ ε α β : Type} {P : Protocol σ κ} {i : Nat} {call : κ}

/-- A part of a call that changes nothing and returns a value, of which `R` is true and of the
windows it was found in. -/
def Finds (P : Protocol σ κ) (i : Nat) (call : κ) (R : α → List (σ × σ) → Prop) (p : Prog σ ε α)
    (own : List (σ × σ)) (s : σ) : Prop :=
  Holds P i call
    (fun own' r t => ∃ a, r = .ok a ∧ IdleSince own own' ∧ P.rely i s t ∧ R a own') p own s

namespace Finds

variable {R : α → List (σ × σ) → Prop} {own : List (σ × σ)} {s : σ}

theorem ret {a : α} (h : R a own) : Finds P i call R (pure a : Prog σ ε α) own s :=
  ⟨a, rfl, IdleSince.refl own, P.relyRefl i s, h⟩

/-- One window. -/
theorem read (hidle : ∀ own s, P.guar i call own s s) {f : σ → α}
    (h : ∀ t, P.inv t → R (f t) (own ++ [(t, t)])) :
    Finds P i call R (Prog.read f : Prog σ ε α) own s :=
  Holds.read (hidle own) fun t hrely hinv =>
    ⟨f t, rfl, IdleSince.one own t, hrely, h t hinv⟩

/-- A part that looks, before the rest of a call. -/
theorem bind_holds {Q : Post σ ε β} {p : Prog σ ε α} {f : α → Prog σ ε β}
    (hp : Finds P i call R p own s)
    (h : ∀ a own' t, IdleSince own own' → P.rely i s t → R a own' →
      Holds P i call Q (f a) own' t) : Holds P i call Q (p >>= f) own s := by
  refine Holds.bind _ _ _ (Holds.mono ?_ _ _ _ hp)
  rintro own' r t ⟨a, rfl, hidle, hrely, ha⟩
  exact h a own' t hidle hrely ha

/-- Two parts that look. -/
theorem bind {R' : β → List (σ × σ) → Prop} {p : Prog σ ε α} {f : α → Prog σ ε β}
    (hp : Finds P i call R p own s)
    (h : ∀ a own' t, IdleSince own own' → P.rely i s t → R a own' →
      Finds P i call R' (f a) own' t) : Finds P i call R' (p >>= f) own s := by
  refine hp.bind_holds fun a own' t hidle hrely ha => ?_
  refine Holds.mono ?_ _ _ _ (h a own' t hidle hrely ha)
  rintro own'' r u ⟨b, hr, hidle', hrely', hb⟩
  exact ⟨b, hr, hidle.trans hidle', P.relyTrans i _ _ _ hrely hrely', hb⟩

end Finds

end Finds

end ControlPlane
