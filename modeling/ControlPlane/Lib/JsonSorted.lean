/-
JSON text with the members of every object in order, as `json.dumps(value, sort_keys=True,
separators=(",", ":"))` writes it.

Two values are the same if they are once the members are in order.  The text is in ASCII, and
the same values are those with the same text.
-/
import ControlPlane.Lib.JsonWrite

namespace ControlPlane

namespace JsonRead

/-- Floats with their texts, as `repr` writes and `float` reads them. -/
structure Floats where
  F : Type
  text : F → Codes
  read : Codes → F
  ascii : ∀ x, ∀ c ∈ text x, c < 128
  reads : ∀ x, FloatReads text read x

section

variable {F : Type}

/-- A member among others, in the order of the names. -/
def insertMember (member : Codes × Value F) : Members F → Members F
  | [] => [member]
  | other :: rest =>
      if member.1 < other.1 then member :: other :: rest else other :: insertMember member rest

mutual

/-- The value with the members of every object in order. -/
def sortKeys : Value F → Value F
  | .arr items => .arr (sortItems items)
  | .obj members => .obj (sortMembers members)
  | .null => .null
  | .bool b => .bool b
  | .int n => .int n
  | .float x => .float x
  | .str text => .str text

/-- Every item, sorted inside. -/
def sortItems : List (Value F) → List (Value F)
  | [] => []
  | item :: rest => sortKeys item :: sortItems rest

/-- Every member, sorted inside, in the order of the keys. -/
def sortMembers : Members F → Members F
  | [] => []
  | (key, value) :: rest => insertMember (key, sortKeys value) (sortMembers rest)

end

/-- The same value, whatever the order of the members of objects. -/
def SameValue (a b : Value F) : Prop := sortKeys a = sortKeys b

/-- The same object, whatever the order of its members and theirs. -/
def SameObject (a b : Members F) : Prop :=
  ∀ key, (get? a key).map sortKeys = (get? b key).map sortKeys

theorem insertMember_perm (member : Codes × Value F) (members : Members F) :
    (insertMember member members).Perm (member :: members) := by
  induction members with
  | nil => exact .refl _
  | cons other rest ih =>
      unfold insertMember
      split_ifs
      · exact .refl _
      · exact (ih.cons other).trans (.swap _ _ _)

theorem sortItems_eq (items : List (Value F)) : sortItems items = items.map sortKeys := by
  induction items with
  | nil => rfl
  | cons item rest ih => rw [sortItems, ih, List.map_cons]

theorem sortMembers_perm (members : Members F) :
    (sortMembers members).Perm (members.map fun member => (member.1, sortKeys member.2)) := by
  induction members with
  | nil => exact .refl _
  | cons member rest ih => exact (insertMember_perm _ _).trans (ih.cons _)

variable {floatText : F → Codes} {readFloat : Codes → F} {maxDigits : Nat}

/-- The order makes no value less readable. -/
theorem Readable.sortKeys {depth : Nat} {value : Value F}
    (h : Readable floatText readFloat maxDigits depth value) :
    Readable floatText readFloat maxDigits depth (JsonRead.sortKeys value) := by
  induction h with
  | null depth => exact .null depth
  | bool depth b => exact .bool depth b
  | int depth h => exact .int depth h
  | float depth h => exact .float depth h
  | str depth h => exact .str depth h
  | arr h ih =>
      rw [JsonRead.sortKeys, sortItems_eq]
      apply Readable.arr
      intro item hitem
      obtain ⟨old, hold, rfl⟩ := List.mem_map.mp hitem
      exact ih old hold
  | @obj depth members names clean h ih =>
      have hperm := sortMembers_perm members
      have hentry : ∀ entry ∈ sortMembers members, ∃ member ∈ members,
          entry = (member.1, JsonRead.sortKeys member.2) := by
        intro entry hentry
        obtain ⟨member, hmember, rfl⟩ := List.mem_map.mp (hperm.mem_iff.mp hentry)
        exact ⟨member, hmember, rfl⟩
      refine .obj ?_ ?_ ?_
      · have hnames := hperm.map (·.1)
        rw [List.map_map] at hnames
        exact hnames.nodup_iff.mpr names
      · intro entry hin
        obtain ⟨member, hmember, rfl⟩ := hentry entry hin
        exact clean member hmember
      · intro entry hin
        obtain ⟨member, hmember, rfl⟩ := hentry entry hin
        exact ih member hmember

/-! ### ASCII -/

/-- Every code point is below 128. -/
def Ascii (text : Codes) : Prop := ∀ c ∈ text, c < 128

theorem Ascii.append {a b : Codes} (ha : Ascii a) (hb : Ascii b) : Ascii (a ++ b) := by
  intro c hc
  rcases List.mem_append.mp hc with h | h
  · exact ha c h
  · exact hb c h

theorem Ascii.cons {c : Nat} {text : Codes} (hc : c < 128) (h : Ascii text) :
    Ascii (c :: text) := by
  intro d hd
  rcases List.mem_cons.mp hd with rfl | hd
  · exact hc
  · exact h d hd

theorem ascii_nil : Ascii [] := fun _ h => absurd h List.not_mem_nil

theorem ascii_escapeUnit (n : Nat) : Ascii (escapeUnit n) := by
  have hdigit : ∀ d < 16, code (Hex.digit d) < 128 := by decide
  have hmod : ∀ m, m % 16 < 16 := fun m => Nat.mod_lt m (by decide)
  intro c hc
  have hshape : escapeUnit n = [code '\\', code 'u', code (Hex.digit (n / 4096 % 16)),
    code (Hex.digit (n / 256 % 16)), code (Hex.digit (n / 16 % 16)), code (Hex.digit (n % 16))] :=
    rfl
  rw [hshape] at hc
  simp only [List.mem_cons, List.not_mem_nil, or_false] at hc
  rcases hc with rfl | rfl | rfl | rfl | rfl | rfl
  · decide
  · decide
  · exact hdigit _ (hmod _)
  · exact hdigit _ (hmod _)
  · exact hdigit _ (hmod _)
  · exact hdigit _ (hmod _)

theorem ascii_escapeCode (c : Nat) : Ascii (escapeCode c) := by
  unfold escapeCode
  split_ifs with _ _ hprint
  · exact .cons (by decide) (.cons (by decide) ascii_nil)
  · exact .cons (by decide) (.cons (by decide) ascii_nil)
  · exact .cons (by omega) ascii_nil
  · exact .cons (by decide) (.cons (by decide) ascii_nil)
  · exact .cons (by decide) (.cons (by decide) ascii_nil)
  · exact .cons (by decide) (.cons (by decide) ascii_nil)
  · exact .cons (by decide) (.cons (by decide) ascii_nil)
  · exact .cons (by decide) (.cons (by decide) ascii_nil)
  · exact ascii_escapeUnit c
  · exact (ascii_escapeUnit _).append (ascii_escapeUnit _)

theorem ascii_quote (text : Codes) : Ascii (quote text) := by
  apply Ascii.append
  · apply Ascii.cons (by decide)
    intro c hc
    obtain ⟨d, -, hd⟩ := List.mem_flatMap.mp hc
    exact ascii_escapeCode d c hd
  · exact .cons (by decide) ascii_nil

theorem ascii_intText (n : Int) : Ascii (intText n) := by
  have hdigits : ∀ m, Ascii (digitsText m) := by
    intro m c hc
    have hdigit := isDigit_digitsText m c hc
    simp only [isDigit, Bool.and_eq_true, decide_eq_true_eq] at hdigit
    omega
  unfold intText
  split_ifs
  · exact .cons (by decide) (hdigits _)
  · exact hdigits _

theorem ascii_writeItems {items : List (Value F)}
    (h : ∀ item ∈ items, Ascii (write floatText item)) :
    Ascii (writeItems floatText items) := by
  match items with
  | [] => exact ascii_nil
  | [item] => exact h item List.mem_cons_self
  | item :: next :: others =>
      have hothers := ascii_writeItems fun other hother =>
        h other (List.mem_cons_of_mem item hother)
      rw [writeItems_cons_cons]
      exact (h item List.mem_cons_self).append (.cons (by decide) hothers)

theorem ascii_writeMembers {members : Members F}
    (h : ∀ member ∈ members, Ascii (write floatText member.2)) :
    Ascii (writeMembers floatText members) := by
  match members with
  | [] => exact ascii_nil
  | [member] =>
      exact (ascii_quote member.1).append (.cons (by decide) (h member List.mem_cons_self))
  | member :: next :: others =>
      have hothers := ascii_writeMembers fun other hother =>
        h other (List.mem_cons_of_mem member hother)
      rw [writeMembers_cons_cons]
      exact ((ascii_quote member.1).append (.cons (by decide) (h member List.mem_cons_self))).append
        (.cons (by decide) hothers)

/-- **The text of a value is in ASCII.** -/
theorem ascii_write (hfloat : ∀ x, Ascii (floatText x)) {depth : Nat} {value : Value F}
    (h : Readable floatText readFloat maxDigits depth value) : Ascii (write floatText value) := by
  induction h with
  | null =>
      rw [write, codes_null]
      unfold Ascii
      decide
  | bool _ b =>
      cases b with
      | true =>
          show Ascii (codes "true")
          rw [codes_true]
          unfold Ascii
          decide
      | false =>
          show Ascii (codes "false")
          rw [codes_false]
          unfold Ascii
          decide
  | int => exact ascii_intText _
  | float => exact hfloat _
  | str => exact ascii_quote _
  | arr _ ih =>
      exact .append (.cons (by decide) (ascii_writeItems ih)) (.cons (by decide) ascii_nil)
  | obj _ _ _ ih =>
      exact .append (.cons (by decide) (ascii_writeMembers ih)) (.cons (by decide) ascii_nil)

theorem codes_textOf {text : Codes} (h : Ascii text) : codes (textOf text) = text := by
  rw [codes, textOf, String.toList_ofList, codesOf, List.map_map]
  conv_rhs => rw [← List.map_id text]
  apply List.map_congr_left
  intro c hc
  have hlt := h c hc
  have hchars : ∀ n < 128, (Char.ofNat n).toNat = n := by decide
  exact hchars c hlt

end

/-! ### Canonical text -/

/-- A value that JSON can carry, for some limits of its reader. -/
def IsJson (floats : Floats) (value : Value floats.F) : Prop :=
  ∃ maxDigits depth, Readable floats.text floats.read maxDigits depth value

/-- `json.dumps(value, sort_keys=True, separators=(",", ":"))`. -/
def dumpsSorted (floats : Floats) (value : Value floats.F) : String :=
  textOf (write floats.text (sortKeys value))

/-- **The same values are those with the same text.** -/
theorem dumpsSorted_inj {floats : Floats} {a b : Value floats.F} (ha : IsJson floats a)
    (hb : IsJson floats b) : dumpsSorted floats a = dumpsSorted floats b ↔ SameValue a b := by
  obtain ⟨digitsA, depthA, ha⟩ := ha
  obtain ⟨digitsB, depthB, hb⟩ := hb
  constructor
  · intro h
    have hcodes := congrArg codes h
    rw [dumpsSorted, dumpsSorted, codes_textOf (ascii_write floats.ascii ha.sortKeys),
      codes_textOf (ascii_write floats.ascii hb.sortKeys)] at hcodes
    exact write_injective ha.sortKeys hb.sortKeys hcodes
  · intro h
    rw [dumpsSorted, h, ← dumpsSorted]

end JsonRead

end ControlPlane
