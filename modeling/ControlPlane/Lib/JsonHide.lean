/-
Values with something else in the place of what is stored under chosen names, at any depth.

Two values that are the same once this is done differ only there.  A value that has none of the
names is left as it is, and any other value is not.
-/
import ControlPlane.Lib.JsonSorted

namespace ControlPlane

namespace JsonRead

section

variable {F : Type} (hidden : Codes → Bool)

section

variable (filler : Value F)

mutual

/-- The value with the filler under every hidden name. -/
def hide : Value F → Value F
  | .arr items => .arr (hideItems items)
  | .obj members => .obj (hideMembers members)
  | .null => .null
  | .bool b => .bool b
  | .int n => .int n
  | .float x => .float x
  | .str text => .str text

/-- Every item, with what it hides replaced. -/
def hideItems : List (Value F) → List (Value F)
  | [] => []
  | item :: rest => hide item :: hideItems rest

/-- A member whose key is hidden has the filler for its value. -/
def hideMembers : Members F → Members F
  | [] => []
  | (key, value) :: rest => (key, if hidden key then filler else hide value) :: hideMembers rest

end

end

mutual

/-- Whether the value has a hidden name, at any depth. -/
def hides : Value F → Bool
  | .arr items => hidesItems items
  | .obj members => hidesMembers members
  | .null | .bool _ | .int _ | .float _ | .str _ => false

/-- Some item hides something. -/
def hidesItems : List (Value F) → Bool
  | [] => false
  | item :: rest => hides item || hidesItems rest

/-- Some member is hidden, or hides something. -/
def hidesMembers : Members F → Bool
  | [] => false
  | (key, value) :: rest => (hidden key || hides value) || hidesMembers rest

end

variable {hidden}

/-! ### Members one by one -/

/-- What takes the place of a value under a name. -/
def hideUnder (hidden : Codes → Bool) (filler : Value F) (key : Codes) (value : Value F) :
    Value F :=
  if hidden key then filler else hide hidden filler value

theorem hideItems_eq (filler : Value F) (items : List (Value F)) :
    hideItems hidden filler items = items.map (hide hidden filler) := by
  induction items with
  | nil => rfl
  | cons item rest ih => rw [hideItems, ih, List.map_cons]

theorem hideMembers_eq (filler : Value F) (members : Members F) :
    hideMembers hidden filler members
      = members.map fun member => (member.1, hideUnder hidden filler member.1 member.2) := by
  induction members with
  | nil => rfl
  | cons member rest ih =>
      rw [hideMembers, ih, List.map_cons]
      rfl

theorem hidesItems_eq (items : List (Value F)) :
    hidesItems hidden items = items.any (hides hidden) := by
  induction items with
  | nil => rfl
  | cons item rest ih => rw [hidesItems, ih, List.any_cons]

theorem hidesMembers_eq (members : Members F) :
    hidesMembers hidden members
      = members.any fun member => hidden member.1 || hides hidden member.2 := by
  induction members with
  | nil => rfl
  | cons member rest ih => rw [hidesMembers, ih, List.any_cons]

/-- A lookup after a change of every value. -/
theorem get?_map (f : Codes → Value F → Value F) (members : Members F) (key : Codes) :
    get? (members.map fun member => (member.1, f member.1 member.2)) key
      = (get? members key).map (f key) := by
  induction members with
  | nil => rfl
  | cons member rest ih =>
      obtain ⟨name, value⟩ := member
      unfold get? at ih ⊢
      rw [List.map_cons]
      by_cases hname : name = key
      · subst hname
        rw [List.find?_cons_of_pos (by simp), List.find?_cons_of_pos (by simp)]
        rfl
      · rw [List.find?_cons_of_neg (by simpa using hname),
          List.find?_cons_of_neg (by simpa using hname), ih]

/-! ### Induction on values -/

/-- What holds of a value if it holds of the items and of the members holds of every value. -/
theorem Value.induct {P : Value F → Prop} (null : P .null) (bool : ∀ b, P (.bool b))
    (int : ∀ n, P (.int n)) (float : ∀ x, P (.float x)) (str : ∀ text, P (.str text))
    (arr : ∀ items, (∀ item ∈ items, P item) → P (.arr items))
    (obj : ∀ members : Members F, (∀ member ∈ members, P member.2) → P (.obj members))
    (value : Value F) : P value := by
  refine @Value.rec F P (fun items => ∀ item ∈ items, P item)
    (fun members => ∀ member ∈ members, P member.2) (fun member => P member.2)
    null bool int float str arr obj ?_ ?_ ?_ ?_ ?_ value
  · intro item hitem
    exact absurd hitem List.not_mem_nil
  · intro item rest hfirst hrest other hother
    rcases List.mem_cons.mp hother with rfl | hother
    · exact hfirst
    · exact hrest other hother
  · intro member hmember
    exact absurd hmember List.not_mem_nil
  · intro member rest hfirst hrest other hother
    rcases List.mem_cons.mp hother with rfl | hother
    · exact hfirst
    · exact hrest other hother
  · intro key value hvalue
    exact hvalue

/-! ### What hiding leaves -/

theorem any_congr_of_mem {α : Type} {p q : α → Bool} {l : List α} (h : ∀ x ∈ l, p x = q x) :
    l.any p = l.any q := by
  induction l with
  | nil => rfl
  | cons x rest ih =>
      rw [List.any_cons, List.any_cons, h x List.mem_cons_self,
        ih fun y hy => h y (List.mem_cons_of_mem x hy)]

variable {filler : Value F}

/-- A value without a hidden name is left as it is. -/
theorem hide_of_not_hides {value : Value F} (h : hides hidden value = false) :
    hide hidden filler value = value := by
  induction value using Value.induct with
  | null | bool | int | float | str => rfl
  | arr items ih =>
      rw [hides, hidesItems_eq] at h
      rw [hide, hideItems_eq]
      congr 1
      conv_rhs => rw [← List.map_id items]
      apply List.map_congr_left
      intro item hitem
      exact ih item hitem (by simpa using List.any_eq_false.mp h item hitem)
  | obj members ih =>
      rw [hides, hidesMembers_eq] at h
      rw [hide, hideMembers_eq]
      congr 1
      conv_rhs => rw [← List.map_id members]
      apply List.map_congr_left
      intro member hmember
      have hmember' := List.any_eq_false.mp h member hmember
      rw [Bool.or_eq_true, not_or, Bool.not_eq_true, Bool.not_eq_true] at hmember'
      rw [hideUnder, hmember'.1, ih member hmember hmember'.2]
      rfl

/-- Hiding takes no hidden name away. -/
theorem hides_hide (value : Value F) :
    hides hidden (hide hidden filler value) = hides hidden value := by
  induction value using Value.induct with
  | null | bool | int | float | str => rfl
  | arr items ih =>
      rw [hide, hides, hides, hidesItems_eq, hidesItems_eq, hideItems_eq, List.any_map]
      exact any_congr_of_mem fun item hitem => ih item hitem
  | obj members ih =>
      rw [hide, hides, hides, hidesMembers_eq, hidesMembers_eq, hideMembers_eq, List.any_map]
      apply any_congr_of_mem
      intro member hmember
      show (hidden member.1 || hides hidden (hideUnder hidden filler member.1 member.2)) = _
      cases hname : hidden member.1 with
      | true => rfl
      | false => simp [hideUnder, hname, ih member hmember]

/-- What is hidden first makes no difference. -/
theorem hide_hide (other value : Value F) :
    hide hidden filler (hide hidden other value) = hide hidden filler value := by
  induction value using Value.induct with
  | null | bool | int | float | str => rfl
  | arr items ih =>
      rw [hide, hide, hide, hideItems_eq, hideItems_eq, hideItems_eq, List.map_map]
      congr 1
      exact List.map_congr_left ih
  | obj members ih =>
      rw [hide, hide, hide, hideMembers_eq, hideMembers_eq, hideMembers_eq, List.map_map]
      congr 1
      apply List.map_congr_left
      intro member hmember
      show (member.1, hideUnder hidden filler member.1
        (hideUnder hidden other member.1 member.2)) = _
      cases hname : hidden member.1 with
      | true => simp [hideUnder, hname]
      | false => simp [hideUnder, hname, ih member hmember]

/-- **Hiding different things makes a difference if there is anything to hide.** -/
theorem hides_of_hide_eq {other : Value F} (hne : filler ≠ other) {value : Value F}
    (h : hide hidden filler value = hide hidden other value) : hides hidden value = false := by
  induction value using Value.induct with
  | null | bool | int | float | str => rfl
  | arr items ih =>
      rw [hide, hide, hideItems_eq, hideItems_eq, Value.arr.injEq, List.map_inj_left] at h
      rw [hides, hidesItems_eq, List.any_eq_false]
      intro item hitem
      rw [ih item hitem (h item hitem)]
      exact Bool.false_ne_true
  | obj members ih =>
      rw [hide, hide, hideMembers_eq, hideMembers_eq, Value.obj.injEq, List.map_inj_left] at h
      rw [hides, hidesMembers_eq, List.any_eq_false]
      intro member hmember
      have hsame := (Prod.mk.inj (h member hmember)).2
      cases hname : hidden member.1 with
      | true =>
          rw [hideUnder, hideUnder, hname, if_pos rfl, if_pos rfl] at hsame
          exact absurd hsame hne
      | false =>
          rw [hideUnder, hideUnder, hname, if_neg Bool.false_ne_true,
            if_neg Bool.false_ne_true] at hsame
          rw [ih member hmember hsame]
          exact Bool.false_ne_true

/-! ### The order of members -/

theorem insertMember_map (f : Codes → Value F → Value F) (member : Codes × Value F)
    (members : Members F) :
    insertMember (member.1, f member.1 member.2) (members.map fun m => (m.1, f m.1 m.2))
      = (insertMember member members).map fun m => (m.1, f m.1 m.2) := by
  induction members with
  | nil => rfl
  | cons other rest ih =>
      rw [List.map_cons, insertMember, insertMember]
      by_cases h : member.1 < other.1
      · rw [if_pos h, if_pos h]
        rfl
      · rw [if_neg h, if_neg h, ih]
        rfl

/-- Hiding and putting members in order can be done either way round. -/
theorem sortKeys_hide (hfiller : sortKeys filler = filler) (value : Value F) :
    sortKeys (hide hidden filler value) = hide hidden filler (sortKeys value) := by
  induction value using Value.induct with
  | null | bool | int | float | str => rfl
  | arr items ih =>
      rw [hide, sortKeys, sortKeys, hide, hideItems_eq, hideItems_eq, sortItems_eq, sortItems_eq,
        List.map_map, List.map_map]
      congr 1
      exact List.map_congr_left ih
  | obj members ih =>
      rw [hide, sortKeys, sortKeys, hide]
      congr 1
      induction members with
      | nil => rfl
      | cons member rest ihrest =>
          obtain ⟨key, value⟩ := member
          have hvalue := ih (key, value) List.mem_cons_self
          have hrest := ihrest fun other hother => ih other (List.mem_cons_of_mem _ hother)
          have hunder : sortKeys (if hidden key then filler else hide hidden filler value)
              = hideUnder hidden filler key (sortKeys value) := by
            rw [hideUnder, apply_ite sortKeys, hfiller, hvalue]
          rw [hideMembers, sortMembers, sortMembers, hunder, hrest, hideMembers_eq, hideMembers_eq]
          exact insertMember_map (hideUnder hidden filler) (key, sortKeys value) (sortMembers rest)

theorem hides_sortKeys (value : Value F) : hides hidden (sortKeys value) = hides hidden value := by
  induction value using Value.induct with
  | null | bool | int | float | str => rfl
  | arr items ih =>
      rw [sortKeys, hides, hides, hidesItems_eq, hidesItems_eq, sortItems_eq, List.any_map]
      exact any_congr_of_mem fun item hitem => ih item hitem
  | obj members ih =>
      rw [sortKeys, hides, hides, hidesMembers_eq, hidesMembers_eq,
        (sortMembers_perm members).any_eq, List.any_map]
      apply any_congr_of_mem
      intro member hmember
      show (hidden member.1 || hides hidden (sortKeys member.2)) = _
      rw [ih member hmember]

variable {floatText : F → Codes} {readFloat : Codes → F} {maxDigits : Nat}

/-- A filler that can always be read makes no value less readable. -/
theorem Readable.hide (hfiller : ∀ depth, Readable floatText readFloat maxDigits depth filler)
    {depth : Nat} {value : Value F} (h : Readable floatText readFloat maxDigits depth value) :
    Readable floatText readFloat maxDigits depth (JsonRead.hide hidden filler value) := by
  induction h with
  | null depth => exact .null depth
  | bool depth b => exact .bool depth b
  | int depth h => exact .int depth h
  | float depth h => exact .float depth h
  | str depth h => exact .str depth h
  | arr h ih =>
      rw [JsonRead.hide, hideItems_eq]
      apply Readable.arr
      intro item hitem
      obtain ⟨old, hold, rfl⟩ := List.mem_map.mp hitem
      exact ih old hold
  | @obj depth members names clean h ih =>
      rw [JsonRead.hide, hideMembers_eq]
      refine .obj ?_ ?_ ?_
      · rw [List.map_map]
        exact names
      · intro entry hentry
        obtain ⟨member, hmember, rfl⟩ := List.mem_map.mp hentry
        exact clean member hmember
      · intro entry hentry
        obtain ⟨member, hmember, rfl⟩ := List.mem_map.mp hentry
        show Readable floatText readFloat maxDigits depth
          (hideUnder hidden filler member.1 member.2)
        unfold hideUnder
        split_ifs
        · exact hfiller depth
        · exact ih member hmember

end

end JsonRead

end ControlPlane
