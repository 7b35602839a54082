/-
Calls that create a row unless they find one.

A call looks for a row and returns it; when there is none, it inserts a row of its own and
returns that.  Between the two windows other calls may insert, and nothing in the store forbids
a second row with the same label.  `good_iff` says what that costs: at any point of a run the
rows have different labels, and every call has returned a row with the label it wanted, exactly
if every call found only what it wanted and inserted only where nothing had that label.
-/
import ControlPlane.Lib.Concurrent
import ControlPlane.Lib.Runs
import Mathlib.Data.List.Nodup

namespace ControlPlane

/-- How calls of kind `κ` look for rows and insert them. -/
structure Creator (σ ε α κ π : Type) where
  rows : σ → List α
  /-- What a call finds. -/
  find : κ → σ → Option α
  /-- The row it inserts otherwise. -/
  create : κ → α
  insert : κ → σ → Except ε (Unit × σ)
  /-- The row it has inserted, as it is read back. -/
  reload : κ → σ → Option α
  /-- The exception for a row that is not there any more. -/
  lost : ε
  /-- What should be there only once. -/
  label : α → π
  /-- The label that a call wants. -/
  wanted : κ → π
  find_mem : ∀ {call s row}, find call s = some row → row ∈ rows s
  insert_ok : ∀ {call s t}, insert call s = .ok ((), t) → rows t = rows s ++ [create call]
  reload_eq : ∀ {call s row}, create call ∈ rows s → reload call s = some row →
    row = create call
  create_label : ∀ call, label (create call) = wanted call

namespace Creator

variable {σ ε α κ π τ : Type} (C : Creator σ ε α κ π)

/-- The end of a call that has inserted its row. -/
def load (call : κ) : Prog σ ε α := do
  let row ← Prog.read (C.reload call)
  match row with
  | none => Prog.raise C.lost
  | some row => return row

/-- What is left of a call that has found nothing. -/
def store (call : κ) : Prog σ ε α := do
  Prog.transaction (C.insert call)
  C.load call

/-- Look for the row, and make it when there is none. -/
def body (call : κ) : Prog σ ε α := do
  let found ← Prog.read (C.find call)
  match found with
  | some row => return row
  | none => C.store call

/-! ### Where a call is -/

/-- What is left of a call. -/
inductive Stage (call : κ) (s : σ) : Prog σ ε α → Prop
  | looks : Stage call s (C.body call)
  | stores : Stage call s (C.store call)
  | loads (hrow : C.create call ∈ C.rows s) : Stage call s (C.load call)
  | returned (row : α) (hrow : row ∈ C.rows s) : Stage call s (.ret row)
  | raised (e : ε) : Stage call s (.raise e)

/-- Every call is at one of its stages. -/
def Staged (c : Config σ ε α κ) : Prop := ∀ entry ∈ c.calls, C.Stage entry.1 c.store entry.2

/-- **The rows have different labels, and every call has returned what it wanted.** -/
structure Good (c : Config σ ε α κ) : Prop where
  unique : ((C.rows c.store).map C.label).Nodup
  returned : ∀ i call row, c.Returned i call (.ok row) → C.label row = C.wanted call

/-- The call that moves finds only what it wants, and inserts only where nothing has the label
it wants. -/
def Timely (c : Config σ ε α κ) (event : Event κ τ) : Prop :=
  ∀ i, event = .resume i → ∀ call,
    (c.calls[i]? = some (call, C.body call) →
      ∀ row, C.find call c.store = some row → C.label row = C.wanted call) ∧
    (c.calls[i]? = some (call, C.store call) → ∀ t, C.insert call c.store = .ok ((), t) →
      ∀ row ∈ C.rows c.store, C.label row ≠ C.wanted call)

/-- A call that inserts does so where nothing has the label it wants. -/
def Fresh (c : Config σ ε α κ) (event : Event κ τ) : Prop :=
  ∀ i, event = .resume i → ∀ call, c.calls[i]? = some (call, C.store call) →
    ∀ t, C.insert call c.store = .ok ((), t) → ∀ row ∈ C.rows c.store, C.label row ≠ C.wanted call

variable {C}

/-- Where calls look for what they want, only inserting can be out of time. -/
theorem timely_iff_fresh (hfind : ∀ {call s row}, C.find call s = some row →
    C.label row = C.wanted call) (c : Config σ ε α κ) (event : Event κ τ) :
    C.Timely c event ↔ C.Fresh c event := by
  constructor
  · intro h i hi call
    exact (h i hi call).2
  · intro h i hi call
    exact ⟨fun _ row hrow => hfind hrow, h i hi call⟩

theorem Stage.mono {call : κ} {s t : σ} {p : Prog σ ε α} (h : C.Stage call s p)
    (hrows : ∀ row ∈ C.rows s, row ∈ C.rows t) : C.Stage call t p := by
  cases h with
  | looks => exact .looks
  | stores => exact .stores
  | loads hrow => exact .loads (hrows _ hrow)
  | returned row hrow => exact .returned row (hrows _ hrow)
  | raised e => exact .raised e

/-- What one window of a call does to the rows, and where it leaves the call. -/
theorem Stage.window {call : κ} {s : σ} {ready : σ → Bool} {act : σ → σ}
    {next : σ → Prog σ ε α} (h : C.Stage call s (.window ready act next)) :
    C.Stage call (act s) (next s) ∧
      (C.rows (act s) = C.rows s ∨ C.rows (act s) = C.rows s ++ [C.create call]) := by
  generalize hp : Prog.window ready act next = p at h
  cases h with
  | looks =>
      obtain ⟨rfl, rfl, rfl⟩ := Prog.window.inj hp
      refine ⟨?_, .inl rfl⟩
      show C.Stage call s (match C.find call s with | some row => .ret row | none => C.store call)
      cases hfind : C.find call s with
      | none => exact .stores
      | some row => exact .returned row (C.find_mem hfind)
  | stores =>
      obtain ⟨rfl, rfl, rfl⟩ := Prog.window.inj hp
      show C.Stage call (Prog.commit (C.insert call) s)
        ((Prog.outcome (C.insert call) s).bind fun _ => C.load call) ∧ _
      unfold Prog.commit Prog.outcome
      cases hinsert : C.insert call s with
      | error e => exact ⟨.raised e, .inl rfl⟩
      | ok inserted =>
          have hrows := C.insert_ok hinsert
          refine ⟨.loads ?_, .inr hrows⟩
          rw [hrows]
          simp
  | loads hrow =>
      obtain ⟨rfl, rfl, rfl⟩ := Prog.window.inj hp
      refine ⟨?_, .inl rfl⟩
      show C.Stage call s (match C.reload call s with
        | none => .raise C.lost
        | some row => .ret row)
      cases hreload : C.reload call s with
      | none => exact .raised _
      | some row => exact .returned row (C.reload_eq hrow hreload ▸ hrow)
  | returned row hrow => cases hp
  | raised e => cases hp

/-! ### One event -/

section Steps

variable {environment : τ → σ → σ} {c : Config σ ε α κ}

/-- Every call stays at one of its stages. -/
theorem Staged.step (henv : ∀ e s, C.rows (environment e s) = C.rows s) (h : C.Staged c)
    (event : Event κ τ) : C.Staged (c.step (fun _ => C.body) environment event) := by
  cases event with
  | start call =>
      intro entry hentry
      rcases List.mem_append.mp hentry with hentry | hentry
      · exact h entry hentry
      · rw [List.mem_singleton.mp hentry]
        exact .looks
  | environment e =>
      intro entry hentry
      refine (h entry hentry).mono ?_
      intro row hrow
      show row ∈ C.rows (environment e c.store)
      rw [henv e c.store]
      exact hrow
  | resume i =>
      show C.Staged (c.resume i)
      obtain hsame | ⟨call, ready, act, next, hcall, -, hmoved⟩ := Config.resume_cases c i
      · rw [hsame]
        exact h
      obtain ⟨hstage, hrows⟩ := (h _ (List.mem_of_getElem? hcall)).window
      have hgrows : ∀ row ∈ C.rows c.store, row ∈ C.rows (act c.store) := by
        intro row hrow
        rcases hrows with hrows | hrows
        · rw [hrows]
          exact hrow
        · rw [hrows]
          exact List.mem_append_left _ hrow
      rw [hmoved]
      intro entry hentry
      rcases List.mem_or_eq_of_mem_set hentry with hentry | rfl
      · exact (h entry hentry).mono hgrows
      · exact hstage

/-- A call that was just made has returned nothing. -/
theorem not_returned_body {call : κ} {r : Except ε α} : (C.body call).result? ≠ some r := nofun

/-- What has returned after one window of call `i`. -/
theorem returned_set {i j : Nat} {call call' : κ} {p q : Prog σ ε α} {s t : σ}
    {journal journal' : List (Nat × σ × σ)} {calls : List (κ × Prog σ ε α)} {r : Except ε α}
    (hi : calls[i]? = some (call, p)) (hp : p.result? = none) :
    (⟨t, calls.set i (call, q), journal'⟩ : Config σ ε α κ).Returned j call' r ↔
      (⟨s, calls, journal⟩ : Config σ ε α κ).Returned j call' r ∨
        (j = i ∧ call' = call ∧ q.result? = some r) := by
  have hlt := (List.getElem?_eq_some_iff.mp hi).1
  unfold Config.Returned
  by_cases hij : i = j
  · subst hij
    rw [List.getElem?_set_self hlt, hi]
    constructor
    · rintro ⟨x, hx, hr⟩
      obtain ⟨rfl, rfl⟩ := Prod.mk.inj (Option.some.inj hx)
      exact .inr ⟨rfl, rfl, hr⟩
    · rintro (⟨x, hx, hr⟩ | ⟨-, rfl, hr⟩)
      · obtain ⟨rfl, rfl⟩ := Prod.mk.inj (Option.some.inj hx)
        rw [hp] at hr
        cases hr
      · exact ⟨q, rfl, hr⟩
  · rw [List.getElem?_set_ne hij]
    constructor
    · exact .inl
    · rintro (h | ⟨rfl, -⟩)
      · exact h
      · exact absurd rfl hij

/-- A window that inserts nothing keeps what is good exactly if what it returns is wanted. -/
theorem good_quiet {i : Nat} {call : κ} {p q : Prog σ ε α} {w : Nat × σ × σ}
    (hcall : c.calls[i]? = some (call, p)) (hp : p.result? = none) (hgood : C.Good c) :
    C.Good ⟨c.store, c.calls.set i (call, q), c.journal ++ [w]⟩ ↔
      ∀ row, q.result? = some (.ok row) → C.label row = C.wanted call := by
  have hreturned := fun (j : Nat) (call' : κ) (row : α) =>
    @returned_set σ ε α κ i j call call' p q c.store c.store c.journal (c.journal ++ [w]) c.calls
      (.ok row) hcall hp
  constructor
  · intro h row hrow
    exact h.returned i call row ((hreturned i call row).mpr (.inr ⟨rfl, rfl, hrow⟩))
  · intro h
    refine ⟨hgood.unique, ?_⟩
    intro j call' row hrow
    rcases (hreturned j call' row).mp hrow with hold | ⟨rfl, rfl, hnew⟩
    · exact hgood.returned j call' row hold
    · exact h row hnew

/-- A call that is made changes nothing. -/
theorem good_start (hgood : C.Good c) (call : κ) :
    C.Good (c.step (fun _ => C.body) environment (.start call)) := by
  refine ⟨hgood.unique, ?_⟩
  rintro i call' row ⟨p, hp, hr⟩
  change (c.calls ++ [(call, C.body call)])[i]? = _ at hp
  by_cases hi : i < c.calls.length
  · rw [List.getElem?_append_left hi] at hp
    exact hgood.returned i call' row ⟨p, hp, hr⟩
  · rw [List.getElem?_append_right (by omega), List.getElem?_singleton] at hp
    by_cases hlast : i - c.calls.length = 0
    · simp only [hlast, if_true, Option.some.injEq, Prod.mk.injEq] at hp
      obtain ⟨-, rfl⟩ := hp
      exact absurd hr not_returned_body
    · simp [hlast] at hp

/-- A call that looks keeps what is good exactly if it finds only what it wants. -/
theorem good_looks {i : Nat} {call : κ} (hcall : c.calls[i]? = some (call, C.body call))
    (hgood : C.Good c) :
    C.Good (c.resume i) ↔
      ∀ row, C.find call c.store = some row → C.label row = C.wanted call := by
  have hresume : ∃ q w, c.resume i = ⟨c.store, c.calls.set i (call, q), c.journal ++ [w]⟩ ∧
      ∀ row, q.result? = some (.ok row) ↔ C.find call c.store = some row := by
    unfold Config.resume
    rw [hcall]
    refine ⟨_, _, rfl, fun row => ?_⟩
    cases hfound : C.find call c.store with
    | none =>
        simp only [hfound, reduceCtorEq, iff_false]
        exact nofun
    | some found => simp [hfound, Prog.result?]
  obtain ⟨q, w, hresume, hresult⟩ := hresume
  rw [hresume, good_quiet hcall rfl hgood]
  exact forall_congr' fun row => by rw [hresult row]

/-- A call that inserts keeps what is good exactly if nothing has the label that it wants. -/
theorem good_stores {i : Nat} {call : κ} (hcall : c.calls[i]? = some (call, C.store call))
    (hgood : C.Good c) :
    C.Good (c.resume i) ↔ ∀ t, C.insert call c.store = .ok ((), t) →
      ∀ row ∈ C.rows c.store, C.label row ≠ C.wanted call := by
  have hresume : c.resume i = ⟨Prog.commit (C.insert call) c.store,
      c.calls.set i (call, (Prog.outcome (C.insert call) c.store).bind fun _ => C.load call),
      c.journal ++ [(i, c.store, Prog.commit (C.insert call) c.store)]⟩ := by
    unfold Config.resume
    rw [hcall]
    rfl
  rw [hresume]
  unfold Prog.commit Prog.outcome
  cases hinsert : C.insert call c.store with
  | error e =>
      refine iff_of_true ?_ nofun
      exact (good_quiet hcall rfl hgood).mpr nofun
  | ok inserted =>
      obtain ⟨⟨⟩, t⟩ := inserted
      have hrows := C.insert_ok hinsert
      have hunique : ((C.rows t).map C.label).Nodup ↔
          ∀ row ∈ C.rows c.store, C.label row ≠ C.wanted call := by
        rw [hrows, List.map_append, List.map_singleton, C.create_label, List.nodup_append]
        simp [hgood.unique]
      constructor
      · rintro h t' ht'
        exact hunique.mp h.unique
      · intro h
        refine ⟨hunique.mpr (h t rfl), ?_⟩
        intro j call' row hrow
        rcases (returned_set (s := c.store) (t := t) hcall rfl).mp hrow with hrow | ⟨-, -, hr⟩
        · exact hgood.returned j call' row hrow
        · cases hr

/-- A call that reads back what it has inserted returns what it wants. -/
theorem good_loads {i : Nat} {call : κ} (hcall : c.calls[i]? = some (call, C.load call))
    (hrow : C.create call ∈ C.rows c.store) (hgood : C.Good c) : C.Good (c.resume i) := by
  have hresume : ∃ q w, c.resume i = ⟨c.store, c.calls.set i (call, q), c.journal ++ [w]⟩ ∧
      ∀ row, q.result? = some (.ok row) → C.reload call c.store = some row := by
    unfold Config.resume
    rw [hcall]
    refine ⟨_, _, rfl, fun row => ?_⟩
    cases hfound : C.reload call c.store with
    | none => simp [hfound, Prog.result?]
    | some found => simp [hfound, Prog.result?]
  obtain ⟨q, w, hresume, hresult⟩ := hresume
  rw [hresume, good_quiet hcall rfl hgood]
  intro row hreturned
  rw [C.reload_eq hrow (hresult row hreturned)]
  exact C.create_label call

/-- **An event keeps what is good exactly if the call that moves is in time.** -/
theorem good_step_iff (henv : ∀ e s, C.rows (environment e s) = C.rows s) (hstaged : C.Staged c)
    (hgood : C.Good c) (event : Event κ τ) :
    C.Good (c.step (fun _ => C.body) environment event) ↔ C.Timely c event := by
  cases event with
  | start call => exact iff_of_true (good_start hgood call) nofun
  | environment e =>
      refine iff_of_true ⟨?_, hgood.returned⟩ nofun
      show ((C.rows (environment e c.store)).map C.label).Nodup
      rw [henv e c.store]
      exact hgood.unique
  | resume i =>
      show C.Good (c.resume i) ↔ _
      have htimely : C.Good (c.resume i) → C.Timely c (.resume i : Event κ τ) := by
        rintro h _ ⟨⟩ call
        exact ⟨fun hcall => (good_looks hcall hgood).mp h,
          fun hcall => (good_stores hcall hgood).mp h⟩
      obtain hsame | ⟨call, ready, act, next, hcall, -, -⟩ := Config.resume_cases c i
      · rw [hsame] at htimely ⊢
        exact ⟨htimely, fun _ => hgood⟩
      have hstage : C.Stage call c.store (.window ready act next) :=
        hstaged _ (List.mem_of_getElem? hcall)
      generalize hp : Prog.window ready act next = p at hcall hstage
      cases hstage with
      | looks =>
          exact ⟨htimely, fun h => (good_looks hcall hgood).mpr ((h i rfl call).1 hcall)⟩
      | stores =>
          exact ⟨htimely, fun h => (good_stores hcall hgood).mpr ((h i rfl call).2 hcall)⟩
      | loads hrow => exact ⟨htimely, fun _ => good_loads hcall hrow hgood⟩
      | returned row hrow => cases hp
      | raised e => cases hp

end Steps

/-! ### Runs -/

/-- **All along a run what is good stays good, exactly if every call is in time.** -/
theorem good_iff {environment : τ → σ → σ}
    (henv : ∀ e s, C.rows (environment e s) = C.rows s) {first : σ} (hfirst : C.rows first = [])
    (events : List (Event κ τ)) :
    (∀ before after, events = before ++ after →
        C.Good ((Config.initial first).runAll (fun _ => C.body) environment before)) ↔
      ∀ before event after, events = before ++ event :: after →
        C.Timely ((Config.initial first).runAll (fun _ => C.body) environment before) event := by
  have hgood : C.Good (Config.initial first) := by
    refine ⟨?_, ?_⟩
    · show ((C.rows first).map C.label).Nodup
      simp [hfirst]
    · rintro i call row ⟨p, hp, -⟩
      simp [Config.initial] at hp
  have hstaged : C.Staged (Config.initial first) := by simp [Staged, Config.initial]
  exact Runs.kept_iff hgood hstaged (fun c e h => h.step henv e)
    (fun c e hstaged hgood => good_step_iff henv hstaged hgood e) events

/-- Every call of a run is at one of its stages. -/
theorem staged_run {environment : τ → σ → σ}
    (henv : ∀ e s, C.rows (environment e s) = C.rows s) (first : σ) (events : List (Event κ τ)) :
    C.Staged ((Config.initial first).runAll (fun _ => C.body) environment events) := by
  have hfirst : C.Staged (Config.initial first) := by simp [Staged, Config.initial]
  exact Runs.foldl_keeps (I := C.Staged) (fun c e h => h.step henv e) events hfirst

/-- Calls that have returned rows with one label have returned one row. -/
theorem Good.same {c : Config σ ε α κ} (hgood : C.Good c) (hstaged : C.Staged c) {i j : Nat}
    {call call' : κ} {row row' : α} (hi : c.Returned i call (.ok row))
    (hj : c.Returned j call' (.ok row')) (hwanted : C.wanted call = C.wanted call') :
    row = row' := by
  have hmem : ∀ {i : Nat} {call : κ} {row : α}, c.Returned i call (.ok row) →
      row ∈ C.rows c.store := by
    rintro i call row ⟨p, hp, hr⟩
    have hstage := hstaged _ (List.mem_of_getElem? hp)
    cases p with
    | ret a =>
        obtain rfl : a = row := by simpa [Prog.result?] using hr
        cases hstage with
        | returned _ hrow => exact hrow
    | raise e => cases hr
    | window ready act next => cases hr
  refine List.inj_on_of_nodup_map hgood.unique (hmem hi) (hmem hj) ?_
  rw [hgood.returned i call row hi, hgood.returned j call' row' hj, hwanted]

end Creator

end ControlPlane
