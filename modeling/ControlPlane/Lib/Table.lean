/-
Tables with a primary key.

A table is a list of rows in which no key occurs twice.  Rows enter by `insert?`, which
refuses a key that is taken, and change by `put`, which replaces the row of the same
key, so the keys stay distinct by construction.  Proofs speak about `get?`; `get?_eq_some`
turns a statement about rows into one about keys.
-/
import Mathlib.Data.List.Nodup

namespace ControlPlane

/-- The rows of a table. -/
structure Table (κ α : Type) (key : α → κ) where
  /-- The rows in the order they were inserted. -/
  rows : List α
  /-- No two rows have the same key. -/
  distinct : (rows.map key).Nodup

namespace Table

variable {κ α : Type} [DecidableEq κ] {key : α → κ}

/-- The table without rows. -/
def empty : Table κ α key := ⟨[], List.nodup_nil⟩

/-- The row with this key. -/
def get? (t : Table κ α key) (id : κ) : Option α := t.rows.find? fun r => key r = id

/-- **Keys identify rows.** -/
theorem get?_eq_some {t : Table κ α key} {id : κ} {r : α} :
    t.get? id = some r ↔ r ∈ t.rows ∧ key r = id := by
  constructor
  · intro h
    exact ⟨List.mem_of_find?_eq_some h, by simpa using List.find?_some h⟩
  · rintro ⟨hmem, rfl⟩
    have hsome : (t.get? (key r)).isSome := by
      unfold get?
      rw [List.find?_isSome]
      exact ⟨r, hmem, by simp⟩
    obtain ⟨found, hfound⟩ := Option.isSome_iff_exists.mp hsome
    have hkey : key found = key r := by simpa using List.find?_some hfound
    have hsame := List.inj_on_of_nodup_map t.distinct (List.mem_of_find?_eq_some hfound) hmem hkey
    rw [hfound, hsame]

theorem key_of_get? {t : Table κ α key} {id : κ} {r : α} (h : t.get? id = some r) : key r = id :=
  (get?_eq_some.mp h).2

theorem mem_of_get? {t : Table κ α key} {id : κ} {r : α} (h : t.get? id = some r) : r ∈ t.rows :=
  (get?_eq_some.mp h).1

theorem get?_of_mem {t : Table κ α key} {r : α} (h : r ∈ t.rows) : t.get? (key r) = some r :=
  get?_eq_some.mpr ⟨h, rfl⟩

theorem get?_eq_none {t : Table κ α key} {id : κ} : t.get? id = none ↔ id ∉ t.rows.map key := by
  unfold get?
  simp

/-- The rows with one key are the row with that key. -/
theorem filter_key (t : Table κ α key) (id : κ) :
    t.rows.filter (fun r => key r = id) = (t.get? id).toList := by
  obtain ⟨rows, hdistinct⟩ := t
  show rows.filter (fun r => key r = id) = (rows.find? fun r => key r = id).toList
  induction rows with
  | nil => rfl
  | cons r rest ih =>
      obtain ⟨hnew, hrest⟩ := List.nodup_cons.mp hdistinct
      by_cases hkey : key r = id
      · have hnone : rest.filter (fun r => key r = id) = [] := by
          rw [List.filter_eq_nil_iff]
          intro x hx hxkey
          have hsame : key x = key r := (of_decide_eq_true hxkey).trans hkey.symm
          exact hnew (List.mem_map.mpr ⟨x, hx, hsame⟩)
        simp [hkey, hnone]
      · simp [hkey, ih hrest]

omit [DecidableEq κ] in

/-- A table in which there is one row, and no other, is that row. -/
theorem rows_eq_singleton {t : Table κ α key} {r : α} (h : r ∈ t.rows)
    (honly : ∀ x ∈ t.rows, x = r) : t.rows = [r] := by
  have hrows := List.eq_replicate_of_mem honly
  have hnodup := List.Nodup.of_map key t.distinct
  rw [hrows, List.nodup_replicate] at hnodup
  have hpos := List.length_pos_of_mem h
  rw [hrows, show t.rows.length = 1 by omega]
  rfl

/-! ### Changing a row -/

theorem map_key_put (rows : List α) (r : α) :
    (rows.map fun old => if key old = key r then r else old).map key = rows.map key := by
  rw [List.map_map]
  refine List.map_congr_left ?_
  intro old _
  by_cases h : key old = key r <;> simp [h]

/-- The table with `r` in place of the row that has its key. -/
def put (t : Table κ α key) (r : α) : Table κ α key :=
  ⟨t.rows.map fun old => if key old = key r then r else old, by
    rw [map_key_put]
    exact t.distinct⟩

/-- The rows after `put`: the new one, and the old ones of other keys. -/
theorem mem_put {t : Table κ α key} {r old x : α} (h : t.get? (key r) = some old) :
    x ∈ (t.put r).rows ↔ x = r ∨ x ∈ t.rows ∧ key x ≠ key r := by
  unfold put
  rw [List.mem_map]
  constructor
  · rintro ⟨y, hy, rfl⟩
    by_cases hkey : key y = key r
    · exact .inl (if_pos hkey)
    · rw [if_neg hkey]
      exact .inr ⟨hy, hkey⟩
  · rintro (rfl | ⟨hx, hkey⟩)
    · exact ⟨old, mem_of_get? h, if_pos (key_of_get? h)⟩
    · exact ⟨x, hx, if_neg hkey⟩

/-- What is the same of the new row and of the old one is the same of all rows. -/
theorem map_put {β : Type} {f : α → β} {t : Table κ α key} {r old : α}
    (h : t.get? (key r) = some old) (hf : f r = f old) :
    (t.put r).rows.map f = t.rows.map f := by
  unfold put
  rw [List.map_map]
  refine List.map_congr_left ?_
  intro x hx
  show f (if key x = key r then r else x) = f x
  by_cases hkey : key x = key r
  · have hsame : x = old :=
      Option.some.inj ((get?_of_mem hx).symm.trans (by rw [hkey, h]))
    rw [if_pos hkey, hf, hsame]
  · rw [if_neg hkey]

/-- A selection in which neither the new row is nor the old one stays the same. -/
theorem filter_put {p : α → Bool} {t : Table κ α key} {r old : α}
    (h : t.get? (key r) = some old) (hr : p r = false) (hold : p old = false) :
    (t.put r).rows.filter p = t.rows.filter p := by
  unfold put
  have hrows : ∀ rows : List α, (∀ x ∈ rows, x ∈ t.rows) →
      (rows.map fun x => if key x = key r then r else x).filter p = rows.filter p := by
    intro rows
    induction rows with
    | nil => exact fun _ => rfl
    | cons x rest ih =>
        intro hmem
        have hrest := ih fun y hy => hmem y (List.mem_cons_of_mem _ hy)
        rw [List.map_cons, List.filter_cons, List.filter_cons, hrest]
        by_cases hkey : key x = key r
        · have hsame : x = old := by
            have hx := get?_of_mem (hmem x List.mem_cons_self)
            rw [hkey, h] at hx
            exact (Option.some.inj hx).symm
          rw [if_pos hkey, hsame, hr, hold, if_neg Bool.false_ne_true, if_neg Bool.false_ne_true]
        · rw [if_neg hkey]
  exact hrows t.rows fun _ hx => hx

theorem mem_of_mem_put {t : Table κ α key} {r x : α} (h : x ∈ (t.put r).rows) :
    x = r ∨ x ∈ t.rows := by
  obtain ⟨old, hold, rfl⟩ := List.mem_map.mp h
  by_cases hkey : key old = key r
  · exact .inl (if_pos hkey)
  · rw [if_neg hkey]
    exact .inr hold

theorem get?_put {t : Table κ α key} {r old : α} (h : t.get? (key r) = some old) (id : κ) :
    (t.put r).get? id = if id = key r then some r else t.get? id := by
  by_cases hid : id = key r
  · subst hid
    rw [if_pos rfl]
    exact get?_of_mem ((mem_put h).mpr (.inl rfl))
  · rw [if_neg hid]
    ext x
    rw [get?_eq_some, get?_eq_some, mem_put h]
    constructor
    · rintro ⟨rfl | ⟨hx, -⟩, rfl⟩
      · exact absurd rfl hid
      · exact ⟨hx, rfl⟩
    · rintro ⟨hx, rfl⟩
      exact ⟨.inr ⟨hx, hid⟩, rfl⟩

/-- The table with one row changed, if it is there. -/
def change (t : Table κ α key) (id : κ) (f : α → α) : Table κ α key :=
  match t.get? id with
  | none => t
  | some row => t.put (f row)

/-- Where the change keeps the key, the row is found changed and the others as they were. -/
theorem get?_change {f : α → α} (hf : ∀ r, key (f r) = key r) (t : Table κ α key) (k id : κ) :
    (t.change k f).get? id = (t.get? id).map fun row => if id = k then f row else row := by
  unfold change
  cases hrow : t.get? k with
  | none =>
      by_cases hid : id = k
      · simp [hid, hrow]
      · simp [hid]
  | some row =>
      have hkey : key (f row) = k := (hf row).trans (key_of_get? hrow)
      show (t.put (f row)).get? id = _
      rw [get?_put (hkey.symm ▸ hrow), hkey]
      by_cases hid : id = k
      · simp [hid, hrow]
      · simp [hid]

/-! ### Adding a row -/

/-- The table with `r` added, unless its key is taken. -/
def insert? (t : Table κ α key) (r : α) : Option (Table κ α key) :=
  if h : key r ∈ t.rows.map key then none
  else some ⟨t.rows ++ [r], by
    rw [List.map_append, List.map_singleton]
    exact t.distinct.append (List.nodup_singleton _) (by simpa using h)⟩

/-- A key that is free can be inserted. -/
theorem insert?_of_none {t : Table κ α key} {r : α} (h : t.get? (key r) = none) :
    ∃ t', t.insert? r = some t' := by
  unfold insert?
  rw [get?_eq_none] at h
  rw [dif_neg h]
  exact ⟨_, rfl⟩

theorem insert?_eq_some {t t' : Table κ α key} {r : α} (h : t.insert? r = some t') :
    t.get? (key r) = none ∧ t'.rows = t.rows ++ [r] := by
  unfold insert? at h
  by_cases hkey : key r ∈ t.rows.map key
  · rw [dif_pos hkey] at h
    cases h
  · rw [dif_neg hkey] at h
    obtain rfl := Option.some.inj h
    exact ⟨get?_eq_none.mpr hkey, rfl⟩

theorem get?_insert {t t' : Table κ α key} {r : α} (h : t.insert? r = some t') (id : κ) :
    t'.get? id = if id = key r then some r else t.get? id := by
  obtain ⟨hnone, hrows⟩ := insert?_eq_some h
  by_cases hid : id = key r
  · subst hid
    rw [if_pos rfl]
    refine get?_of_mem ?_
    rw [hrows]
    simp
  · rw [if_neg hid]
    ext x
    rw [get?_eq_some, get?_eq_some, hrows, List.mem_append, List.mem_singleton]
    constructor
    · rintro ⟨hx | rfl, rfl⟩
      · exact ⟨hx, rfl⟩
      · exact absurd rfl hid
    · rintro ⟨hx, rfl⟩
      exact ⟨.inl hx, rfl⟩

/-- A new row has a new key, so it hides no old one. -/
theorem get?_insert_of_some {t t' : Table κ α key} {r old : α} {id : κ}
    (h : t.insert? r = some t') (hold : t.get? id = some old) : t'.get? id = some old := by
  have hne : id ≠ key r := by
    rintro rfl
    rw [(insert?_eq_some h).1] at hold
    cases hold
  rw [get?_insert h, if_neg hne]
  exact hold

end Table

end ControlPlane
