/-
The first event of every key.

A loop that keeps the least time seen for each key ends with one entry for each key, and the
entry has the least time of the key's events.  So there are as many entries as there are
different keys, in whatever order the events come.
-/
import Mathlib.Data.Finset.Card
import Mathlib.Order.Basic

namespace ControlPlane

namespace Firsts

variable {κ τ : Type} [DecidableEq κ] [LinearOrder τ]

/-- The entries after one more event. -/
def note : List (κ × τ) → κ × τ → List (κ × τ)
  | [], event => [event]
  | (key, first) :: rest, event =>
      if key = event.1 then (key, if event.2 < first then event.2 else first) :: rest
      else (key, first) :: note rest event

/-- The least time of a key. -/
def first? (events : List (κ × τ)) (key : κ) : Option τ :=
  ((events.filter fun event => event.1 = key).map (·.2)).min?

/-- The entries of a list of events. -/
def firsts (events : List (κ × τ)) : List (κ × τ) := events.foldl note []

/-- The keys that occur. -/
def keys (events : List (κ × τ)) : Finset κ := (events.map (·.1)).toFinset

theorem keys_note (entries : List (κ × τ)) (event : κ × τ) :
    (note entries event).map (·.1) = if event.1 ∈ entries.map (·.1) then entries.map (·.1)
      else entries.map (·.1) ++ [event.1] := by
  induction entries with
  | nil => rfl
  | cons entry rest ih =>
      obtain ⟨key, first⟩ := entry
      unfold note
      by_cases hkey : key = event.1
      · simp [hkey]
      · have hne : event.1 ≠ key := Ne.symm hkey
        rw [if_neg hkey, List.map_cons, ih]
        by_cases hmem : event.1 ∈ rest.map (·.1) <;> simp [hmem, hne]

/-- Each key has one entry. -/
theorem nodup_note {entries : List (κ × τ)} (h : (entries.map (·.1)).Nodup) (event : κ × τ) :
    ((note entries event).map (·.1)).Nodup := by
  rw [keys_note]
  by_cases hmem : event.1 ∈ entries.map (·.1)
  · rw [if_pos hmem]
    exact h
  · rw [if_neg hmem]
    exact h.append (List.nodup_singleton _) (by simpa using hmem)

theorem mem_keys_note (entries : List (κ × τ)) (event : κ × τ) (key : κ) :
    key ∈ (note entries event).map (·.1) ↔ key ∈ entries.map (·.1) ∨ key = event.1 := by
  rw [keys_note]
  by_cases hmem : event.1 ∈ entries.map (·.1)
  · rw [if_pos hmem]
    constructor
    · exact .inl
    · rintro (h | rfl)
      · exact h
      · exact hmem
  · rw [if_neg hmem, List.mem_append, List.mem_singleton]

theorem foldl_note (events : List (κ × τ)) : ∀ {entries : List (κ × τ)},
    (entries.map (·.1)).Nodup → ((events.foldl note entries).map (·.1)).Nodup ∧
      ∀ key, key ∈ (events.foldl note entries).map (·.1) ↔
        key ∈ entries.map (·.1) ∨ key ∈ events.map (·.1) := by
  induction events with
  | nil =>
      intro entries h
      exact ⟨h, fun key => by simp⟩
  | cons event rest ih =>
      intro entries h
      obtain ⟨hnodup, hmem⟩ := ih (nodup_note h event)
      refine ⟨hnodup, fun key => ?_⟩
      rw [List.foldl_cons, hmem, mem_keys_note, List.map_cons, List.mem_cons, or_assoc]

omit [DecidableEq κ] [LinearOrder τ] in
theorem nodup_keys_nil : (([] : List (κ × τ)).map (·.1)).Nodup := List.nodup_nil

theorem nodup_firsts (events : List (κ × τ)) : ((firsts events).map (·.1)).Nodup :=
  (foldl_note events nodup_keys_nil).1

theorem mem_keys_firsts (events : List (κ × τ)) (key : κ) :
    key ∈ (firsts events).map (·.1) ↔ key ∈ events.map (·.1) := by
  rw [firsts, (foldl_note events nodup_keys_nil).2]
  simp

/-- **There are as many entries as keys.** -/
theorem length_firsts (events : List (κ × τ)) : (firsts events).length = (keys events).card := by
  have hkeys : keys events = ((firsts events).map (·.1)).toFinset := by
    ext key
    rw [keys, List.mem_toFinset, List.mem_toFinset, mem_keys_firsts]
  rw [hkeys, List.toFinset_card_of_nodup (nodup_firsts events), List.length_map]

/-! ### The entries -/

/-- The least time of a key, among these events. -/
structure IsFirst (events : List (κ × τ)) (key : κ) (first : τ) : Prop where
  mem : (key, first) ∈ events
  le : ∀ event ∈ events, event.1 = key → first ≤ event.2

theorem first?_eq_some {events : List (κ × τ)} {key : κ} {first : τ} :
    first? events key = some first ↔ IsFirst events key first := by
  have hmem : ∀ time, time ∈ (events.filter fun event => event.1 = key).map (·.2) ↔
      (key, time) ∈ events := by
    intro time
    simp only [List.mem_map, List.mem_filter, decide_eq_true_eq]
    constructor
    · rintro ⟨⟨other, old⟩, ⟨h, rfl⟩, rfl⟩
      exact h
    · intro h
      exact ⟨_, ⟨h, rfl⟩, rfl⟩
  rw [first?, List.min?_eq_some_iff]
  constructor
  · rintro ⟨h, hle⟩
    refine ⟨(hmem first).mp h, ?_⟩
    rintro ⟨other, time⟩ hevent rfl
    exact hle time ((hmem time).mpr hevent)
  · intro h
    exact ⟨(hmem first).mpr h.mem, fun time htime => h.le _ ((hmem time).mp htime) rfl⟩

theorem mem_note_of_ne {entries : List (κ × τ)} {event : κ × τ} {key : κ} (h : key ≠ event.1)
    (first : τ) : (key, first) ∈ note entries event ↔ (key, first) ∈ entries := by
  induction entries with
  | nil =>
      have hne : (key, first) ≠ event := fun hc => h (by rw [← hc])
      simp [note, hne]
  | cons entry rest ih =>
      obtain ⟨other, old⟩ := entry
      unfold note
      by_cases hother : other = event.1
      · simp [hother, h]
      · rw [if_neg hother, List.mem_cons, List.mem_cons, ih]

/-- The entry of the key of the event is the less of the two times, or new. -/
theorem mem_note_self {entries : List (κ × τ)} (hnodup : (entries.map (·.1)).Nodup)
    (event : κ × τ) (first : τ) : (event.1, first) ∈ note entries event ↔
      (∃ old, (event.1, old) ∈ entries ∧ first = min event.2 old) ∨
        event.1 ∉ entries.map (·.1) ∧ first = event.2 := by
  induction entries with
  | nil => simp [note, Prod.ext_iff]
  | cons entry rest ih =>
      obtain ⟨key, old⟩ := entry
      rw [List.map_cons, List.nodup_cons] at hnodup
      obtain ⟨hnew, hrest⟩ := hnodup
      unfold note
      by_cases hkey : key = event.1
      · subst hkey
        have hless : (if event.2 < old then event.2 else old) = min event.2 old := by
          rcases lt_or_ge event.2 old with h | h
          · rw [if_pos h, min_eq_left h.le]
          · rw [if_neg (not_lt.mpr h), min_eq_right h]
        have hout : ∀ value, (event.1, value) ∉ rest := by
          intro value hmem
          exact hnew (List.mem_map.mpr ⟨_, hmem, rfl⟩)
        simp [hless, hout]
      · have hne : event.1 ≠ key := Ne.symm hkey
        rw [if_neg hkey, List.mem_cons, ih hrest]
        simp [hne]

theorem firsts_concat (events : List (κ × τ)) (event : κ × τ) :
    firsts (events ++ [event]) = note (firsts events) event := by
  rw [firsts, List.foldl_append]
  rfl

/-- **An entry is the first event of its key.** -/
theorem mem_firsts (events : List (κ × τ)) : ∀ (key : κ) (first : τ),
    (key, first) ∈ firsts events ↔ IsFirst events key first := by
  induction events using List.reverseRecOn with
  | nil =>
      intro key first
      constructor
      · intro h
        exact absurd h List.not_mem_nil
      · intro h
        exact absurd h.mem List.not_mem_nil
  | append_singleton events event ih =>
      intro key first
      rw [firsts_concat]
      by_cases hkey : key = event.1
      · subst hkey
        rw [mem_note_self (nodup_firsts events), mem_keys_firsts]
        constructor
        · rintro (⟨old, hold, rfl⟩ | ⟨hnew, rfl⟩)
          · have hleast := (ih _ _).mp hold
            refine ⟨?_, ?_⟩
            · rcases min_choice event.2 old with h | h <;> rw [h]
              · exact List.mem_append_right _ List.mem_cons_self
              · exact List.mem_append_left _ hleast.mem
            · intro other hmem hsame
              rcases List.mem_append.mp hmem with h | h
              · exact (min_le_right _ _).trans (hleast.le other h hsame)
              · rw [List.mem_singleton.mp h]
                exact min_le_left _ _
          · refine ⟨List.mem_append_right _ List.mem_cons_self, ?_⟩
            intro other hmem hsame
            rcases List.mem_append.mp hmem with h | h
            · exact absurd (hsame ▸ List.mem_map_of_mem h) hnew
            · rw [List.mem_singleton.mp h]
        · intro h
          by_cases hold : event.1 ∈ events.map (·.1)
          · rw [← mem_keys_firsts] at hold
            obtain ⟨⟨other, old⟩, hentry, hsame⟩ := List.mem_map.mp hold
            change other = event.1 at hsame
            subst hsame
            have hleast := (ih _ _).mp hentry
            refine .inl ⟨old, hentry, le_antisymm ?_ ?_⟩
            · exact le_min (h.le _ (List.mem_append_right _ List.mem_cons_self) rfl)
                (h.le _ (List.mem_append_left _ hleast.mem) rfl)
            · rcases List.mem_append.mp h.mem with hm | hm
              · exact (min_le_right _ _).trans (hleast.le _ hm rfl)
              · rw [← List.mem_singleton.mp hm]
                exact min_le_left _ _
          · refine .inr ⟨hold, ?_⟩
            rcases List.mem_append.mp h.mem with hm | hm
            · exact absurd (List.mem_map_of_mem hm) hold
            · exact congrArg Prod.snd (List.mem_singleton.mp hm)
      · rw [mem_note_of_ne hkey, ih]
        have hne : ∀ time, (key, time) ≠ event := fun time hc => hkey (by rw [← hc])
        constructor
        · intro h
          refine ⟨List.mem_append_left _ h.mem, ?_⟩
          intro other hmem hsame
          rcases List.mem_append.mp hmem with hm | hm
          · exact h.le other hm hsame
          · rw [List.mem_singleton.mp hm] at hsame
            exact absurd hsame.symm hkey
        · intro h
          refine ⟨?_, fun other hmem => h.le other (List.mem_append_left _ hmem)⟩
          rcases List.mem_append.mp h.mem with hm | hm
          · exact hm
          · exact absurd (List.mem_singleton.mp hm) (hne _)

omit [DecidableEq κ] in
/-- The first event of a key is the same in whatever order the events come. -/
theorem IsFirst.perm {events others : List (κ × τ)} (h : events.Perm others) {key : κ}
    {first : τ} : IsFirst events key first ↔ IsFirst others key first := by
  constructor
  · intro hf
    exact ⟨h.mem_iff.mp hf.mem, fun event hmem => hf.le event (h.mem_iff.mpr hmem)⟩
  · intro hf
    exact ⟨h.mem_iff.mpr hf.mem, fun event hmem => hf.le event (h.mem_iff.mp hmem)⟩

theorem first?_perm {events others : List (κ × τ)} (h : events.Perm others) (key : κ) :
    first? events key = first? others key := by
  apply Option.ext
  intro first
  rw [first?_eq_some, first?_eq_some, IsFirst.perm h]

theorem first?_eq_none {events : List (κ × τ)} {key : κ} :
    first? events key = none ↔ ∀ time, (key, time) ∉ events := by
  constructor
  · intro h time hmem
    rw [first?, List.min?_eq_none_iff, List.map_eq_nil_iff, List.filter_eq_nil_iff] at h
    exact h _ hmem (by simp)
  · intro h
    cases hfirst : first? events key with
    | none => rfl
    | some first => exact absurd (first?_eq_some.mp hfirst).mem (h first)

/-- The first event of a key is on the same day in two lists, if to every event of the key in one of
them there is one in both that is on no later day. -/
theorem first?_map_eq {δ : Type} [PartialOrder δ] {day : τ → δ} (hday : Monotone day)
    {events others : List (κ × τ)} {key : κ}
    (h : ∀ time, (key, time) ∈ events ∨ (key, time) ∈ others →
      ∃ shared, (key, shared) ∈ events ∧ (key, shared) ∈ others ∧ day shared ≤ day time) :
    (first? events key).map day = (first? others key).map day := by
  -- the first of one list is no later than that of the other, either way
  have hle : ∀ {xs ys : List (κ × τ)} {x y : τ}, IsFirst xs key x → IsFirst ys key y →
      (∀ time, (key, time) ∈ ys → ∃ shared, (key, shared) ∈ xs ∧ day shared ≤ day time) →
      day x ≤ day y := by
    intro xs ys x y hx hy hshared
    obtain ⟨shared, hmem, hno⟩ := hshared y hy.mem
    exact (hday (hx.le _ hmem rfl)).trans hno
  cases hevents : first? events key with
  | none =>
      cases hothers : first? others key with
      | none => rfl
      | some first =>
          obtain ⟨shared, hmem, -⟩ := h first (.inr (first?_eq_some.mp hothers).mem)
          exact absurd hmem (first?_eq_none.mp hevents shared)
  | some first =>
      cases hothers : first? others key with
      | none =>
          obtain ⟨shared, -, hmem, -⟩ := h first (.inl (first?_eq_some.mp hevents).mem)
          exact absurd hmem (first?_eq_none.mp hothers shared)
      | some other =>
          have hfirst := first?_eq_some.mp hevents
          have hother := first?_eq_some.mp hothers
          refine congrArg some (le_antisymm (hle hfirst hother ?_) (hle hother hfirst ?_))
          · intro time hmem
            obtain ⟨shared, hthere, -, hno⟩ := h time (.inr hmem)
            exact ⟨shared, hthere, hno⟩
          · intro time hmem
            obtain ⟨shared, -, hthere, hno⟩ := h time (.inl hmem)
            exact ⟨shared, hthere, hno⟩

/-- The first events, counted in a table that has a row for every key. -/
theorem countP_firsts {α : Type} {rows : List α} {key : α → κ} (hnodup : (rows.map key).Nodup)
    {events : List (κ × τ)} (hkeys : ∀ event ∈ events, event.1 ∈ rows.map key) (p : τ → Bool) :
    (firsts events).countP (fun first => p first.2)
      = rows.countP fun row => (first? events (key row)).any p := by
  have hsame : (((firsts events).filter fun first => p first.2).map (·.1)).Perm
      ((rows.filter fun row => (first? events (key row)).any p).map key) := by
    rw [List.perm_ext_iff_of_nodup ((nodup_firsts events).sublist (List.filter_sublist.map _))
      (hnodup.sublist (List.filter_sublist.map _))]
    intro id
    simp only [List.mem_map, List.mem_filter, Option.any_eq_true_iff_get, Prod.exists,
      exists_and_right, exists_eq_right, mem_firsts]
    constructor
    · rintro ⟨first, hfirst, hp⟩
      obtain ⟨row, hrow, hid⟩ := List.mem_map.mp (hkeys _ hfirst.mem)
      change key row = id at hid
      have hkept := first?_eq_some.mpr hfirst
      refine ⟨row, ⟨hrow, ?_⟩, hid⟩
      simp [hid, hkept, hp]
    · rintro ⟨row, ⟨hrow, hsome, hp⟩, rfl⟩
      exact ⟨_, first?_eq_some.mp (Option.some_get hsome).symm, hp⟩
  rw [List.countP_eq_length_filter, List.countP_eq_length_filter,
    ← List.length_map (·.1), hsame.length_eq, List.length_map]

end Firsts

end ControlPlane
