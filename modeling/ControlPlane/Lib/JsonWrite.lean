/-
Writing JSON text, as `json.dumps(value, separators=(",", ":"))` does, and reading it back.

A value here is one that was read, so whole numbers and floats differ, and a string may hold a
surrogate.  Reading returns what was written (`loads_write`), as long as no string has the two
halves of a pair side by side, no object has a name twice, and neither the nesting nor a whole
number is too long for the reader.  Hence different values have different texts.
-/
import ControlPlane.Lib.JsonRead
import Mathlib.Data.List.Chain

namespace ControlPlane

namespace JsonRead

/-! ### Strings -/

/-- A code unit, escaped. -/
def escapeUnit (n : Nat) : Codes := codesOf (JsonText.escapeUnit n)

/-- One code point of a string. -/
def escapeCode (c : Nat) : Codes :=
  if c = code '"' then [code '\\', code '"']
  else if c = code '\\' then [code '\\', code '\\']
  else if 32 ≤ c ∧ c ≤ 126 then [c]
  else if c = 8 then [code '\\', code 'b']
  else if c = 9 then [code '\\', code 't']
  else if c = 10 then [code '\\', code 'n']
  else if c = 12 then [code '\\', code 'f']
  else if c = 13 then [code '\\', code 'r']
  else if c < 0x10000 then escapeUnit c
  else
    escapeUnit (0xd800 + (c - 0x10000) / 1024) ++ escapeUnit (0xdc00 + (c - 0x10000) % 1024)

/-- A string in quotes. -/
def quote (text : Codes) : Codes := code '"' :: text.flatMap escapeCode ++ [code '"']

/-- A string that JSON can carry: code points, and nowhere the two halves of a pair. -/
structure Clean (text : Codes) : Prop where
  points : ∀ c ∈ text, c < 0x110000
  apart : text.IsChain fun high low => ¬ (isHigh high = true ∧ isLow low = true)

/-- The units that a code point is read as. -/
def unitsOf (c : Nat) : List CodeUnit :=
  if (32 ≤ c ∧ c ≤ 126) ∨ c = 8 ∨ c = 9 ∨ c = 10 ∨ c = 12 ∨ c = 13 then [.plain c]
  else if c < 0x10000 then [.escaped c]
  else [.escaped (0xd800 + (c - 0x10000) / 1024), .escaped (0xdc00 + (c - 0x10000) % 1024)]

theorem hexValue?_digit : ∀ n < 16, hexValue? (code (Hex.digit n)) = some n := by decide

theorem hex4?_hex4 {n : Nat} (h : n < 0x10000) :
    hex4? (code (Hex.digit (n / 4096 % 16))) (code (Hex.digit (n / 256 % 16)))
      (code (Hex.digit (n / 16 % 16))) (code (Hex.digit (n % 16))) = some n := by
  have hvalue : n / 4096 % 16 * 4096 + n / 256 % 16 * 256 + n / 16 % 16 * 16 + n % 16 = n := by
    omega
  simp only [hex4?, hexValue?_digit _ (Nat.mod_lt _ (by decide : 0 < 16)), Option.bind_eq_bind,
    Option.bind_some, hvalue]

theorem stringUnits_escapeUnit {n : Nat} (h : n < 0x10000) (rest : Codes) :
    stringUnits (escapeUnit n ++ rest) = pushUnit (.escaped n) (stringUnits rest) := by
  have hshape : escapeUnit n ++ rest = code '\\' :: code 'u'
      :: code (Hex.digit (n / 4096 % 16)) :: code (Hex.digit (n / 256 % 16))
      :: code (Hex.digit (n / 16 % 16)) :: code (Hex.digit (n % 16)) :: rest := rfl
  rw [hshape, stringUnits, if_neg (by decide), if_pos rfl]
  simp only [if_true, hex4?_hex4 h]

/-- A character behind a backslash. -/
theorem stringUnits_escape {e n : Nat} (he : escape? e = some n) (hu : e ≠ code 'u')
    (rest : Codes) :
    stringUnits (code '\\' :: e :: rest) = pushUnit (.plain n) (stringUnits rest) := by
  have hnoquote : code '\\' ≠ code '"' := by decide
  rw [stringUnits.eq_def]
  simp only [if_neg hnoquote, if_true, if_neg hu, he]

theorem stringUnits_plain {c : Nat} (hquote : c ≠ code '"') (hbackslash : c ≠ code '\\')
    (h : 32 ≤ c) (rest : Codes) :
    stringUnits (c :: rest) = pushUnit (.plain c) (stringUnits rest) := by
  rw [stringUnits.eq_def]
  simp only [if_neg hquote, if_neg hbackslash, if_neg (Nat.not_lt.mpr h)]

/-- **A code point is read as its units.** -/
theorem stringUnits_escapeCode {c : Nat} (hc : c < 0x110000) (rest : Codes) :
    stringUnits (escapeCode c ++ rest) = (unitsOf c).foldr pushUnit (stringUnits rest) := by
  unfold escapeCode
  split_ifs with hquote hbackslash hprint h8 h9 h10 h12 h13 hbmp
  · subst hquote
    exact stringUnits_escape (by decide) (by decide) rest
  · subst hbackslash
    exact stringUnits_escape (by decide) (by decide) rest
  · unfold unitsOf
    rw [if_pos (.inl hprint)]
    exact stringUnits_plain hquote hbackslash hprint.1 rest
  · subst h8
    exact stringUnits_escape (by decide) (by decide) rest
  · subst h9
    exact stringUnits_escape (by decide) (by decide) rest
  · subst h10
    exact stringUnits_escape (by decide) (by decide) rest
  · subst h12
    exact stringUnits_escape (by decide) (by decide) rest
  · subst h13
    exact stringUnits_escape (by decide) (by decide) rest
  · unfold unitsOf
    rw [if_neg (by omega), if_pos hbmp]
    exact stringUnits_escapeUnit hbmp rest
  · unfold unitsOf
    rw [if_neg (by omega), if_neg hbmp, List.append_assoc, stringUnits_escapeUnit (by omega),
      stringUnits_escapeUnit (by omega)]
    rfl

theorem foldr_pushUnit (units : List CodeUnit) (found : List CodeUnit × Codes) :
    units.foldr pushUnit (.ok found) = .ok (units ++ found.1, found.2) := by
  induction units with
  | nil => rfl
  | cons unit rest ih =>
      rw [List.foldr_cons, ih]
      rfl

theorem stringUnits_quote {text : Codes} (h : ∀ c ∈ text, c < 0x110000) (rest : Codes) :
    stringUnits (text.flatMap escapeCode ++ code '"' :: rest)
      = .ok (text.flatMap unitsOf, rest) := by
  induction text with
  | nil =>
      show stringUnits (code '"' :: rest) = _
      rw [stringUnits.eq_def]
      rfl
  | cons c text ih =>
      rw [List.flatMap_cons, List.append_assoc, stringUnits_escapeCode (h c List.mem_cons_self),
        ih fun d hd => h d (List.mem_cons_of_mem _ hd), foldr_pushUnit, List.flatMap_cons]

/-- A unit that is no second half ends what is before it. -/
theorem joinUnits_escaped {high : Nat} {units : List CodeUnit}
    (h : ∀ low rest, units = .escaped low :: rest → ¬ (isHigh high = true ∧ isLow low = true)) :
    joinUnits (.escaped high :: units) = high :: joinUnits units := by
  cases units with
  | nil => rfl
  | cons unit rest =>
      cases unit with
      | plain c => rfl
      | escaped low =>
          have hpair : ¬ (isHigh high && isLow low) = true := by
            rw [Bool.and_eq_true]
            exact h low rest rfl
          rw [joinUnits, if_neg hpair]

/-- A text whose first unit is a second half begins with that half. -/
theorem first_of_low {text : Codes} (hpoints : ∀ c ∈ text, c < 0x110000) {low : Nat}
    {rest : List CodeUnit} (hlow : isLow low = true)
    (h : text.flatMap unitsOf = .escaped low :: rest) : ∃ others, text = low :: others := by
  cases text with
  | nil => cases h
  | cons c others =>
      have hc := hpoints c List.mem_cons_self
      rw [List.flatMap_cons] at h
      unfold unitsOf at h
      split_ifs at h with hplain hbmp
      · cases h
      · cases h
        exact ⟨others, rfl⟩
      · have hhigh : 0xd800 + (c - 0x10000) / 1024 = low := by
          rw [List.cons_append, List.cons.injEq, CodeUnit.escaped.injEq] at h
          exact h.1
        simp only [isLow, Bool.and_eq_true, decide_eq_true_eq] at hlow
        omega

/-- **The units of a clean text are joined to that text.** -/
theorem joinUnits_units {text : Codes} (hclean : Clean text) :
    joinUnits (text.flatMap unitsOf) = text := by
  induction text with
  | nil => rfl
  | cons c text ih =>
      have htail : Clean text :=
        ⟨fun d hd => hclean.points d (List.mem_cons_of_mem _ hd), hclean.apart.tail⟩
      have hc := hclean.points c List.mem_cons_self
      have hrest := ih htail
      rw [List.flatMap_cons]
      conv_lhs => unfold unitsOf
      split_ifs with hplain hbmp
      · show c :: joinUnits (text.flatMap unitsOf) = c :: text
        rw [hrest]
      · show joinUnits (.escaped c :: text.flatMap unitsOf) = c :: text
        rw [joinUnits_escaped, hrest]
        intro low rest hunits hpair
        obtain ⟨others, rfl⟩ := first_of_low htail.points hpair.2 hunits
        exact (List.isChain_cons_cons.mp hclean.apart).1 hpair
      · show joinUnits (.escaped (0xd800 + (c - 0x10000) / 1024)
          :: .escaped (0xdc00 + (c - 0x10000) % 1024) :: text.flatMap unitsOf) = c :: text
        have hhigh : isHigh (0xd800 + (c - 0x10000) / 1024) = true := by
          simp only [isHigh, Bool.and_eq_true, decide_eq_true_eq]
          omega
        have hlow : isLow (0xdc00 + (c - 0x10000) % 1024) = true := by
          simp only [isLow, Bool.and_eq_true, decide_eq_true_eq]
          omega
        have hvalue : 0x10000 + (0xd800 + (c - 0x10000) / 1024 - 0xd800) * 1024
            + (0xdc00 + (c - 0x10000) % 1024 - 0xdc00) = c := by
          omega
        rw [joinUnits, hhigh, hlow, Bool.and_true, if_pos rfl, hvalue, hrest]

/-- **A clean string is read as it was written.** -/
theorem scanString_quote {text : Codes} (h : Clean text) (rest : Codes) :
    scanString (text.flatMap escapeCode ++ code '"' :: rest) = .ok (text, rest) := by
  rw [scanString, stringUnits_quote h.points]
  show Except.ok (joinUnits (text.flatMap unitsOf), rest) = _
  rw [joinUnits_units h]

/-- The text of a string that JSON holds has no halves of pairs. -/
theorem clean_codes (text : String) : Clean (codes text) := by
  have hvalid : ∀ c ∈ codes text, c < 0xd800 ∨ 0xdfff < c ∧ c < 0x110000 := by
    intro c hc
    obtain ⟨char, -, rfl⟩ := List.mem_map.mp hc
    exact char.valid
  refine ⟨?_, ?_⟩
  · intro c hc
    have h := hvalid c hc
    omega
  · apply List.Pairwise.isChain
    rw [List.pairwise_iff_forall_sublist]
    intro high low hsub hpair
    have hhigh := hvalid high (hsub.subset List.mem_cons_self)
    have hpair := hpair.1
    simp only [isHigh, Bool.and_eq_true, decide_eq_true_eq] at hpair
    omega

/-! ### Numbers -/

/-- The decimal digits of a number. -/
def digitsText (n : Nat) : Codes := codesOf (Nat.toDigits 10 n)

/-- A whole number. -/
def intText (n : Int) : Codes :=
  if n < 0 then code '-' :: digitsText n.natAbs else digitsText n.natAbs

theorem digitsText_small {n : Nat} (h : n < 10) : digitsText n = [48 + n] := by
  have hchar : ∀ n < 10, code (Nat.digitChar n) = 48 + n := by decide
  rw [digitsText, Nat.toDigits_of_lt_base h]
  exact congrArg (· :: []) (hchar n h)

theorem digitsText_large {n : Nat} (h : 10 ≤ n) :
    digitsText n = digitsText (n / 10) ++ [48 + n % 10] := by
  have hchar : ∀ n < 10, code (Nat.digitChar n) = 48 + n := by decide
  rw [digitsText, Nat.toDigits_of_base_le (by decide) h, codesOf, List.map_append]
  exact congrArg (fun c => codesOf (Nat.toDigits 10 (n / 10)) ++ [c])
    (hchar (n % 10) (Nat.mod_lt _ (by decide)))

/-- What holds of one digit, and of a number that is a digit longer, holds of all. -/
theorem digits_induction {P : Nat → Prop} (small : ∀ n < 10, P n)
    (large : ∀ n, 10 ≤ n → P (n / 10) → P n) (n : Nat) : P n := by
  induction n using Nat.strong_induction_on with
  | _ n ih =>
      rcases Nat.lt_or_ge n 10 with h | h
      · exact small n h
      · exact large n h (ih (n / 10) (by omega))

theorem isDigit_digitsText (n : Nat) : ∀ c ∈ digitsText n, isDigit c = true := by
  have hdigit : ∀ d < 10, isDigit (48 + d) = true := by decide
  induction n using digits_induction with
  | small n h =>
      rw [digitsText_small h]
      simpa using hdigit n h
  | large n h ih =>
      rw [digitsText_large h]
      intro c hc
      rcases List.mem_append.mp hc with hc | hc
      · exact ih c hc
      · rw [List.mem_singleton.mp hc]
        exact hdigit _ (Nat.mod_lt _ (by decide))

theorem decimal_concat (digits : Codes) (c : Nat) :
    decimal (digits ++ [c]) = decimal digits * 10 + (c - 48) := by
  rw [decimal, List.foldl_append]
  rfl

theorem decimal_digitsText (n : Nat) : decimal (digitsText n) = n := by
  induction n using digits_induction with
  | small n h =>
      rw [digitsText_small h]
      show 0 * 10 + (48 + n - 48) = n
      omega
  | large n h ih =>
      rw [digitsText_large h, decimal_concat, ih]
      omega

/-- Only zero is written with a zero in front. -/
theorem digitsText_head (n : Nat) : n = 0 ∧ digitsText n = [48] ∨
    ∃ c digits, digitsText n = c :: digits ∧ c ≠ code '0' ∧ isDigit c = true := by
  have hdigit : ∀ d < 10, isDigit (48 + d) = true := by decide
  induction n using digits_induction with
  | small n h =>
      rw [digitsText_small h]
      by_cases hzero : n = 0
      · exact .inl ⟨hzero, by rw [hzero]⟩
      · refine .inr ⟨48 + n, [], rfl, ?_, hdigit n h⟩
        show 48 + n ≠ 48
        omega
  | large n h ih =>
      rw [digitsText_large h]
      rcases ih with ⟨hzero, -⟩ | ⟨c, digits, hdigits, hne, hc⟩
      · omega
      · exact .inr ⟨c, digits ++ [48 + n % 10], by rw [hdigits]; rfl, hne, hc⟩

/-- What follows a number does not continue it. -/
def Ends (rest : Codes) : Prop :=
  ∀ c others, rest = c :: others →
    isDigit c = false ∧ c ≠ code '.' ∧ c ≠ code 'e' ∧ c ≠ code 'E'

theorem ends_nil : Ends [] := by
  intro c others h
  cases h

theorem ends_cons {c : Nat} (hdigit : isDigit c = false)
    (h : c ≠ code '.' ∧ c ≠ code 'e' ∧ c ≠ code 'E') (rest : Codes) : Ends (c :: rest) := by
  intro other others hcons
  cases hcons
  exact ⟨hdigit, h⟩

theorem takeWhile_ends {rest : Codes} (h : Ends rest) : rest.takeWhile isDigit = [] := by
  cases rest with
  | nil => rfl
  | cons c others => simp [(h c others rfl).1]

theorem dropWhile_ends {rest : Codes} (h : Ends rest) : rest.dropWhile isDigit = rest := by
  cases rest with
  | nil => rfl
  | cons c others => simp [(h c others rfl).1]

theorem naturalText_digitsText (n : Nat) {rest : Codes} (h : Ends rest) :
    naturalText (digitsText n ++ rest) = some (digitsText n, rest) := by
  have hall := isDigit_digitsText n
  rcases digitsText_head n with ⟨-, hzero⟩ | ⟨c, digits, hdigits, hne, hc⟩
  · rw [hzero]
    rfl
  · rw [hdigits] at hall ⊢
    have hrest : ∀ d ∈ digits, isDigit d = true := fun d hd => hall d (List.mem_cons_of_mem _ hd)
    rw [List.cons_append, naturalText, if_neg hne, if_pos hc,
      List.takeWhile_append_of_pos hrest, takeWhile_ends h, List.append_nil,
      List.dropWhile_append_of_pos hrest, dropWhile_ends h]

theorem not_minus_of_isDigit {c : Nat} (h : isDigit c = true) : c ≠ code '-' := by
  rintro rfl
  exact absurd h (by decide)

theorem digitsText_cons (n : Nat) : ∃ c digits, digitsText n = c :: digits ∧ isDigit c = true := by
  rcases digitsText_head n with ⟨-, hzero⟩ | ⟨c, digits, hdigits, -, hc⟩
  · exact ⟨48, [], hzero, by decide⟩
  · exact ⟨c, digits, hdigits, hc⟩

theorem integerText_intText (n : Int) {rest : Codes} (h : Ends rest) :
    integerText (intText n ++ rest) = some (intText n, rest) := by
  unfold intText
  split_ifs with hneg
  · rw [List.cons_append, integerText, if_pos rfl, naturalText_digitsText _ h]
    rfl
  · obtain ⟨c, digits, hdigits, hc⟩ := digitsText_cons n.natAbs
    have hnatural := naturalText_digitsText n.natAbs h
    rw [hdigits] at hnatural ⊢
    rw [List.cons_append, integerText, if_neg (not_minus_of_isDigit hc)]
    exact hnatural

theorem integerValue_intText (n : Int) : integerValue (intText n) = n := by
  unfold intText
  split_ifs with hneg
  · rw [integerValue, if_pos rfl, decimal_digitsText]
    omega
  · obtain ⟨c, digits, hdigits, hc⟩ := digitsText_cons n.natAbs
    have hvalue := decimal_digitsText n.natAbs
    rw [hdigits] at hvalue ⊢
    rw [integerValue, if_neg (not_minus_of_isDigit hc), hvalue]
    omega

theorem fractionText_ends {rest : Codes} (h : Ends rest) : fractionText rest = ([], rest) := by
  cases rest with
  | nil => rfl
  | cons c others =>
      rw [fractionText, if_neg]
      intro hpoint
      exact (h c others rfl).2.1 hpoint.1

theorem exponentText_ends {rest : Codes} (h : Ends rest) : exponentText rest = ([], rest) := by
  cases rest with
  | nil => rfl
  | cons c others =>
      rw [exponentText]
      have hc := (h c others rfl).2.2
      simp only [hc.1, hc.2, or_self, false_and, if_false]

/-- The digits of a whole number. -/
def digitsOf (n : Int) : Nat := (digitsText n.natAbs).length

theorem filter_intText (n : Int) : ((intText n).filter isDigit).length = digitsOf n := by
  have hall : (digitsText n.natAbs).filter isDigit = digitsText n.natAbs :=
    List.filter_eq_self.mpr (isDigit_digitsText _)
  have hminus : isDigit (code '-') = false := by decide
  unfold intText digitsOf
  split_ifs
  · rw [List.filter_cons_of_neg (by simp [hminus]), hall]
  · rw [hall]

section

variable {F : Type} (readFloat : Codes → F) {maxDigits : Nat}

theorem scanNumber_intText {n : Int} (hn : digitsOf n ≤ maxDigits) {rest : Codes} (h : Ends rest) :
    scanNumber readFloat maxDigits (intText n ++ rest) = some (.ok (.int n, rest)) := by
  rw [scanNumber, integerText_intText n h]
  simp only [fractionText_ends h, exponentText_ends h, and_self, if_true, readInteger,
    filter_intText, if_neg (Nat.not_lt.mpr hn), integerValue_intText]
  rfl

theorem intText_cons (n : Int) : ∃ c others, intText n = c :: others ∧
    (isDigit c = true ∨ c = code '-' ∧ ∃ d digits, others = d :: digits ∧ isDigit d = true) := by
  obtain ⟨c, digits, hdigits, hc⟩ := digitsText_cons n.natAbs
  unfold intText
  split_ifs
  · exact ⟨_, _, rfl, .inr ⟨rfl, c, digits, hdigits, hc⟩⟩
  · exact ⟨c, digits, hdigits, .inl hc⟩

theorem codes_null : codes "null" = codesOf ['n', 'u', 'l', 'l'] := by decide

theorem codes_true : codes "true" = codesOf ['t', 'r', 'u', 'e'] := by decide

theorem codes_false : codes "false" = codesOf ['f', 'a', 'l', 's', 'e'] := by decide

theorem codes_nan : codes "NaN" = codesOf ['N', 'a', 'N'] := by decide

theorem codes_infinity : codes "Infinity" = codesOf ['I', 'n', 'f', 'i', 'n', 'i', 't', 'y'] := by
  decide

theorem codes_minusInfinity :
    codes "-Infinity" = codesOf ['-', 'I', 'n', 'f', 'i', 'n', 'i', 't', 'y'] := by decide

theorem codes_constant {constant : String × Value F} (h : constant ∈ constants readFloat) :
    ∃ a b tail, codes constant.1 = a :: b :: tail ∧ isDigit a = false ∧ isDigit b = false := by
  simp only [constants, List.mem_cons, List.not_mem_nil, or_false] at h
  rcases h with rfl | rfl | rfl | rfl | rfl | rfl
  · exact ⟨code 'n', code 'u', codesOf ['l', 'l'], codes_null, by decide, by decide⟩
  · exact ⟨code 't', code 'r', codesOf ['u', 'e'], codes_true, by decide, by decide⟩
  · exact ⟨code 'f', code 'a', codesOf ['l', 's', 'e'], codes_false, by decide, by decide⟩
  · exact ⟨code 'N', code 'a', codesOf ['N'], codes_nan, by decide, by decide⟩
  · exact ⟨code 'I', code 'n', codesOf ['f', 'i', 'n', 'i', 't', 'y'], codes_infinity,
      by decide, by decide⟩
  · exact ⟨code '-', code 'I', codesOf ['n', 'f', 'i', 'n', 'i', 't', 'y'], codes_minusInfinity,
      by decide, by decide⟩

/-- A whole number is no constant. -/
theorem scanPlain_intText {n : Int} (hn : digitsOf n ≤ maxDigits) {rest : Codes} (h : Ends rest) :
    scanPlain readFloat maxDigits (intText n ++ rest) = .ok (.int n, rest) := by
  have hnone : (constants readFloat).find?
      (fun constant => (codes constant.1).isPrefixOf (intText n ++ rest)) = none := by
    rw [List.find?_eq_none]
    obtain ⟨c, others, htext, hstart⟩ := intText_cons n
    intro constant hmem hprefix
    obtain ⟨a, b, tail, hcodes, ha, hb⟩ := codes_constant readFloat hmem
    rw [htext, hcodes, List.cons_append, List.isPrefixOf, Bool.and_eq_true, beq_iff_eq] at hprefix
    obtain ⟨rfl, hprefix⟩ := hprefix
    rcases hstart with hc | ⟨-, d, digits, rfl, hd⟩
    · exact absurd hc (by simp [ha])
    · rw [List.cons_append, List.isPrefixOf, Bool.and_eq_true, beq_iff_eq] at hprefix
      obtain ⟨rfl, -⟩ := hprefix
      exact absurd hd (by simp [hb])
  rw [scanPlain, hnone, scanNumber_intText readFloat hn h]
  rfl

/-- What a constant or a number begins with. -/
def StartsPlain (c : Nat) : Prop :=
  isDigit c = true ∨ c ∈ codesOf ['-', 'n', 't', 'f', 'N', 'I']

theorem startsPlain_constant {constant : String × Value F} (h : constant ∈ constants readFloat) :
    ∃ c tail, codes constant.1 = c :: tail ∧ StartsPlain c := by
  simp only [constants, List.mem_cons, List.not_mem_nil, or_false] at h
  rcases h with rfl | rfl | rfl | rfl | rfl | rfl
  · exact ⟨_, _, codes_null, .inr (by decide)⟩
  · exact ⟨_, _, codes_true, .inr (by decide)⟩
  · exact ⟨_, _, codes_false, .inr (by decide)⟩
  · exact ⟨_, _, codes_nan, .inr (by decide)⟩
  · exact ⟨_, _, codes_infinity, .inr (by decide)⟩
  · exact ⟨_, _, codes_minusInfinity, .inr (by decide)⟩

theorem startsPlain_of_integerText {input : Codes} {found : Codes × Codes}
    (h : integerText input = some found) : ∃ c tail, input = c :: tail ∧ StartsPlain c := by
  cases input with
  | nil => cases h
  | cons c tail =>
      refine ⟨c, tail, rfl, ?_⟩
      by_cases hminus : c = code '-'
      · exact .inr (by rw [hminus]; decide)
      · rw [integerText, if_neg hminus, naturalText] at h
        split_ifs at h with hzero hdigit
        · exact .inl (by rw [hzero]; decide)
        · exact .inl hdigit

theorem startsPlain_of_scanPlain {input : Codes} {found : Value F × Codes}
    (h : scanPlain readFloat maxDigits input = .ok found) :
    ∃ c tail, input = c :: tail ∧ StartsPlain c := by
  unfold scanPlain at h
  split at h
  · rename_i name value hfound
    obtain ⟨c, tail, hcodes, hc⟩ := startsPlain_constant readFloat (List.mem_of_find?_eq_some hfound)
    have hprefix := List.find?_some hfound
    change (codes name).isPrefixOf input = true at hprefix
    rw [hcodes] at hprefix
    cases input with
    | nil => cases hprefix
    | cons d others =>
        rw [List.isPrefixOf, Bool.and_eq_true, beq_iff_eq] at hprefix
        exact ⟨d, others, rfl, hprefix.1 ▸ hc⟩
  · unfold scanNumber at h
    split at h
    · cases h
    · rename_i integer rest hinteger
      exact startsPlain_of_integerText hinteger

/-- A character that begins a constant or a number is none of those with another meaning. -/
theorem StartsPlain.other {c : Nat} (h : StartsPlain c) : isSpace c = false ∧ c ≠ code '"' ∧
    c ≠ code '{' ∧ c ≠ code '[' ∧ c ≠ code ']' := by
  have hall : ∀ d < 128, StartsPlain d → isSpace d = false ∧ d ≠ code '"' ∧
      d ≠ code '{' ∧ d ≠ code '[' ∧ d ≠ code ']' := by
    unfold StartsPlain
    decide
  rcases h with hdigit | hmem
  · simp only [isDigit, Bool.and_eq_true, decide_eq_true_eq] at hdigit
    exact hall c (by omega) (.inl (by simp only [isDigit, hdigit, decide_true, Bool.and_self]))
  · have hlt : ∀ d ∈ codesOf ['-', 'n', 't', 'f', 'N', 'I'], d < 128 := by decide
    exact hall c (hlt c hmem) (.inr hmem)

theorem isPrefixOf_append (a b : Codes) : a.isPrefixOf (a ++ b) = true := by
  rw [List.isPrefixOf_iff_prefix]
  exact List.prefix_append a b

theorem scanPlain_null (rest : Codes) :
    scanPlain readFloat maxDigits (codes "null" ++ rest) = .ok (.null, rest) := by
  simp only [scanPlain, constants, List.find?_cons, isPrefixOf_append, List.drop_left]

theorem scanPlain_bool (b : Bool) (rest : Codes) :
    scanPlain readFloat maxDigits ((if b then codes "true" else codes "false") ++ rest)
      = .ok (.bool b, rest) := by
  have hnull : ∀ text ∈ ["true", "false"],
      (codes "null").isPrefixOf (codes text ++ rest) = false := by
    intro text htext
    rw [List.mem_pair] at htext
    rcases htext with rfl | rfl
    · rw [codes_null, codes_true]
      rfl
    · rw [codes_null, codes_false]
      rfl
  cases b with
  | true =>
      simp only [scanPlain, constants, List.find?_cons, hnull "true" (by decide),
        isPrefixOf_append, List.drop_left, if_true]
  | false =>
      have htrue : (codes "true").isPrefixOf (codes "false" ++ rest) = false := by
        rw [codes_true, codes_false]
        rfl
      simp only [scanPlain, constants, List.find?_cons, hnull "false" (by decide), htrue,
        isPrefixOf_append, List.drop_left, Bool.false_eq_true, if_false]

end

/-! ### Values -/

section

variable {F : Type} (floatText : F → Codes)

/-- The members of an object. -/
abbrev Members (F : Type) := List (Codes × Value F)

mutual

/-- `json.dumps(value, separators=(",", ":"))`. -/
def write : Value F → Codes
  | .null => codes "null"
  | .bool b => if b then codes "true" else codes "false"
  | .int n => intText n
  | .float x => floatText x
  | .str text => quote text
  | .arr items => code '[' :: writeItems items ++ [code ']']
  | .obj members => code '{' :: writeMembers members ++ [code '}']

/-- The items of an array, between commas. -/
def writeItems : List (Value F) → Codes
  | [] => []
  | [item] => write item
  | item :: rest => write item ++ code ',' :: writeItems rest

/-- The members of an object, between commas. -/
def writeMembers : List (Codes × Value F) → Codes
  | [] => []
  | [(key, value)] => quote key ++ code ':' :: write value
  | (key, value) :: rest => quote key ++ code ':' :: write value ++ code ',' :: writeMembers rest

end

variable (readFloat : Codes → F)

/-- The text of a float is read as that float, wherever it ends. -/
def FloatReads (x : F) : Prop := ∀ maxDigits rest, Ends rest →
  scanPlain readFloat maxDigits (floatText x ++ rest) = .ok (.float x, rest)

variable (maxDigits : Nat)

/-- What a reader with these limits can return: so many digits and levels of nesting. -/
inductive Readable : Nat → Value F → Prop
  | null (depth : Nat) : Readable depth .null
  | bool (depth : Nat) (b : Bool) : Readable depth (.bool b)
  | int (depth : Nat) {n : Int} (h : digitsOf n ≤ maxDigits) : Readable depth (.int n)
  | float (depth : Nat) {x : F} (h : FloatReads floatText readFloat x) :
      Readable depth (.float x)
  | str (depth : Nat) {text : Codes} (h : Clean text) : Readable depth (.str text)
  | arr {depth : Nat} {items : List (Value F)} (h : ∀ item ∈ items, Readable depth item) :
      Readable (depth + 1) (.arr items)
  | obj {depth : Nat} {members : Members F} (names : (members.map (·.1)).Nodup)
      (clean : ∀ member ∈ members, Clean member.1)
      (h : ∀ member ∈ members, Readable depth member.2) : Readable (depth + 1) (.obj members)

variable {floatText readFloat maxDigits}

/-- Higher limits do no harm. -/
theorem Readable.mono {more depth deeper : Nat} {value : Value F}
    (h : Readable floatText readFloat maxDigits depth value) (hdigits : maxDigits ≤ more)
    (hdepth : depth ≤ deeper) : Readable floatText readFloat more deeper value := by
  induction h generalizing deeper with
  | null | bool => constructor
  | int depth h => exact .int _ (h.trans hdigits)
  | float depth h => exact .float _ h
  | str depth h => exact .str _ h
  | arr h ih =>
      obtain ⟨deeper, rfl⟩ : ∃ d, deeper = d + 1 := ⟨deeper - 1, by omega⟩
      exact .arr fun item hitem => ih item hitem (by omega)
  | obj names clean h ih =>
      obtain ⟨deeper, rfl⟩ : ∃ d, deeper = d + 1 := ⟨deeper - 1, by omega⟩
      exact .obj names clean fun member hmember => ih member hmember (by omega)

variable (floatText) in

/-- The text of a value is read as that value, wherever it ends. -/
def Reads (scan : Codes → Except ReadError (Value F × Codes)) (value : Value F) : Prop :=
  ∀ rest, Ends rest → scan (write floatText value ++ rest) = .ok (value, rest)

/-- What the text of a value begins with. -/
def Begins (text : Codes) : Prop := ∃ c tail, text = c :: tail ∧ isSpace c = false ∧ c ≠ code ']'

theorem Begins.append {text : Codes} (h : Begins text) (rest : Codes) : Begins (text ++ rest) := by
  obtain ⟨c, tail, rfl, hspace, hend⟩ := h
  exact ⟨c, tail ++ rest, rfl, hspace, hend⟩

theorem Begins.skipSpace {text : Codes} (h : Begins text) : JsonRead.skipSpace text = text := by
  obtain ⟨c, tail, rfl, hspace, -⟩ := h
  rw [JsonRead.skipSpace, List.dropWhile_cons_of_neg (by simp [hspace])]

theorem begins_of_startsPlain {text : Codes} (h : ∃ c tail, text = c :: tail ∧ StartsPlain c) :
    Begins text := by
  obtain ⟨c, tail, rfl, hc⟩ := h
  exact ⟨c, tail, rfl, hc.other.1, hc.other.2.2.2.2⟩

theorem begins_cons {c : Nat} (hspace : isSpace c = false) (hend : c ≠ code ']') (tail : Codes) :
    Begins (c :: tail) := ⟨c, tail, rfl, hspace, hend⟩

theorem startsPlain_intText (n : Int) : ∃ c tail, intText n = c :: tail ∧ StartsPlain c := by
  obtain ⟨c, tail, htext, hc | ⟨rfl, -⟩⟩ := intText_cons n
  · exact ⟨c, tail, htext, .inl hc⟩
  · exact ⟨_, tail, htext, .inr (by decide)⟩

theorem startsPlain_float {x : F} (h : FloatReads floatText readFloat x) :
    ∃ c tail, floatText x = c :: tail ∧ StartsPlain c := by
  have hscan := h 0 [] ends_nil
  rw [List.append_nil] at hscan
  exact startsPlain_of_scanPlain readFloat hscan

theorem begins_write {depth : Nat} {value : Value F}
    (h : Readable floatText readFloat maxDigits depth value) :
    Begins (write floatText value) := by
  cases h with
  | null => exact begins_of_startsPlain ⟨_, _, codes_null, .inr (by decide)⟩
  | bool _ b =>
      cases b with
      | true => exact begins_of_startsPlain ⟨_, _, codes_true, .inr (by decide)⟩
      | false => exact begins_of_startsPlain ⟨_, _, codes_false, .inr (by decide)⟩
  | int => exact begins_of_startsPlain (startsPlain_intText _)
  | float _ h =>
      have hstart := startsPlain_float h
      exact begins_of_startsPlain hstart
  | str => exact begins_cons (by decide) (by decide) _
  | arr => exact begins_cons (by decide) (by decide) _
  | obj => exact begins_cons (by decide) (by decide) _

theorem writeItems_cons_cons (item next : Value F) (others : List (Value F)) :
    writeItems floatText (item :: next :: others)
      = write floatText item ++ code ',' :: writeItems floatText (next :: others) := by
  rw [writeItems]
  exact fun h => absurd h (List.cons_ne_nil _ _)

theorem writeMembers_cons_cons (member next : Codes × Value F) (others : Members F) :
    writeMembers floatText (member :: next :: others)
      = quote member.1 ++ code ':' :: write floatText member.2
        ++ code ',' :: writeMembers floatText (next :: others) := by
  rw [writeMembers]
  exact fun h => absurd h (List.cons_ne_nil _ _)

theorem begins_writeItems {items : List (Value F)} (hne : items ≠ [])
    (h : ∀ item ∈ items, Begins (write floatText item)) : Begins (writeItems floatText items) := by
  match items with
  | [] => exact absurd rfl hne
  | [item] => exact h item List.mem_cons_self
  | item :: next :: others =>
      rw [writeItems_cons_cons]
      exact (h item List.mem_cons_self).append _

theorem begins_quote (text : Codes) : Begins (quote text) := begins_cons (by decide) (by decide) _

theorem begins_writeMembers {members : Members F} (hne : members ≠ []) :
    Begins (writeMembers floatText members) := by
  match members with
  | [] => exact absurd rfl hne
  | [member] => exact (begins_quote member.1).append _
  | member :: next :: others =>
      rw [writeMembers_cons_cons, List.append_assoc]
      exact (begins_quote member.1).append _

theorem writeMembers_quote {members : Members F} (hne : members ≠ []) :
    ∃ tail, writeMembers floatText members = code '"' :: tail := by
  match members with
  | [] => exact absurd rfl hne
  | [member] => exact ⟨_, rfl⟩
  | member :: next :: others =>
      rw [writeMembers_cons_cons]
      exact ⟨_, rfl⟩

theorem Begins.length_pos {text : Codes} (h : Begins text) : 0 < text.length := by
  obtain ⟨c, tail, rfl, -⟩ := h
  exact Nat.succ_pos _

theorem length_le_writeItems {items : List (Value F)}
    (h : ∀ item ∈ items, Begins (write floatText item)) :
    items.length ≤ (writeItems floatText items).length := by
  induction items with
  | nil => exact Nat.zero_le _
  | cons item others ih =>
      have hone := (h item List.mem_cons_self).length_pos
      have hothers := ih fun other hother => h other (List.mem_cons_of_mem _ hother)
      cases others with
      | nil => exact hone
      | cons next others =>
          rw [writeItems_cons_cons]
          simp only [List.length_append, List.length_cons] at hothers ⊢
          omega

theorem length_le_writeMembers (members : Members F) :
    members.length ≤ (writeMembers floatText members).length := by
  induction members with
  | nil => exact Nat.zero_le _
  | cons member others ih =>
      cases others with
      | nil => exact ((begins_quote member.1).append _).length_pos
      | cons next others =>
          rw [writeMembers_cons_cons]
          simp only [List.length_append, List.length_cons] at ih ⊢
          omega

section

variable {scan : Codes → Except ReadError (Value F × Codes)}

/-- **Items between commas are read one after the other.** -/
theorem scanItems_write {items : List (Value F)} (hne : items ≠ [])
    (hbegins : ∀ item ∈ items, Begins (write floatText item))
    (h : ∀ item ∈ items, Reads floatText scan item) {fuel : Nat} (hfuel : items.length ≤ fuel)
    (rest : Codes) : scanItems scan fuel (writeItems floatText items ++ code ']' :: rest)
      = .ok (items, rest) := by
  induction items generalizing fuel with
  | nil => exact absurd rfl hne
  | cons item others ih =>
      obtain ⟨fuel, rfl⟩ : ∃ k, fuel = k + 1 := ⟨fuel - 1, by rw [List.length_cons] at hfuel; omega⟩
      have hitem := h item List.mem_cons_self
      cases others with
      | nil =>
          have hread := hitem (code ']' :: rest) (ends_cons (by decide) (by decide) rest)
          rw [scanItems, writeItems, hread]
          rfl
      | cons next others =>
          have hread := hitem (code ',' :: (writeItems floatText (next :: others)
            ++ code ']' :: rest)) (ends_cons (by decide) (by decide) _)
          have hothers := ih (List.cons_ne_nil _ _)
            (fun other hother => hbegins other (List.mem_cons_of_mem _ hother))
            (fun other hother => h other (List.mem_cons_of_mem _ hother))
            (Nat.le_of_succ_le_succ hfuel)
          have hskip := ((begins_writeItems (List.cons_ne_nil next others) fun other hother =>
            hbegins other (List.mem_cons_of_mem _ hother)).append (code ']' :: rest)).skipSpace
          rw [scanItems, writeItems_cons_cons, List.append_assoc, List.cons_append, hread]
          show pushValue item (scanItems scan fuel (skipSpace _)) = _
          rw [hskip, hothers]
          rfl

theorem scanArray_write {items : List (Value F)}
    (hbegins : ∀ item ∈ items, Begins (write floatText item))
    (h : ∀ item ∈ items, Reads floatText scan item) (rest : Codes) :
    scanArray scan (writeItems floatText items ++ code ']' :: rest) = .ok (.arr items, rest) := by
  by_cases hne : items = []
  · subst hne
    rfl
  · have hall := begins_writeItems hne hbegins
    have hfuel := length_le_writeItems hbegins
    have hskip := (hall.append (code ']' :: rest)).skipSpace
    have hscan : ∀ fuel, items.length ≤ fuel →
        scanItems scan fuel (writeItems floatText items ++ code ']' :: rest) = .ok (items, rest) :=
      fun fuel hfuel => scanItems_write hne hbegins h hfuel rest
    obtain ⟨c, tail, htext, -, hend⟩ := hall
    rw [scanArray, hskip]
    rw [htext] at hfuel hscan ⊢
    rw [List.cons_append] at hscan ⊢
    simp only [if_neg hend]
    rw [hscan]
    · rfl
    · rw [List.length_append]
      rw [List.length_cons] at hfuel
      omega

/-- A name, a colon and a value are read as such. -/
theorem scanMember_write {member : Codes × Value F} (hclean : Clean member.1)
    (hbegins : Begins (write floatText member.2)) (h : Reads floatText scan member.2)
    {rest : Codes} (hrest : Ends rest) :
    scanMember scan (quote member.1 ++ code ':' :: (write floatText member.2 ++ rest))
      = .ok (member, rest) := by
  have hname := scanString_quote hclean (code ':' :: (write floatText member.2 ++ rest))
  have hskip := (hbegins.append rest).skipSpace
  simp only [quote, List.cons_append, List.append_assoc, List.nil_append]
  rw [scanMember, if_pos rfl, hname]
  show (scan (skipSpace _)).map _ = _
  rw [hskip, h rest hrest]
  rfl

theorem scanMembers_write {members : Members F} (hne : members ≠ [])
    (hclean : ∀ member ∈ members, Clean member.1)
    (hbegins : ∀ member ∈ members, Begins (write floatText member.2))
    (h : ∀ member ∈ members, Reads floatText scan member.2) {fuel : Nat}
    (hfuel : members.length ≤ fuel) (rest : Codes) :
    scanMembers scan fuel (writeMembers floatText members ++ code '}' :: rest)
      = .ok (members, rest) := by
  induction members generalizing fuel with
  | nil => exact absurd rfl hne
  | cons member others ih =>
      obtain ⟨fuel, rfl⟩ : ∃ k, fuel = k + 1 := ⟨fuel - 1, by rw [List.length_cons] at hfuel; omega⟩
      have hmember := fun {after : Codes} (hafter : Ends after) =>
        scanMember_write (hclean member List.mem_cons_self) (hbegins member List.mem_cons_self)
          (h member List.mem_cons_self) hafter
      cases others with
      | nil =>
          have hread := hmember (ends_cons (c := code '}') (by decide) (by decide) rest)
          rw [scanMembers, writeMembers, List.append_assoc, List.cons_append, hread]
          rfl
      | cons next others =>
          have hread := hmember (ends_cons (c := code ',') (by decide) (by decide)
            (writeMembers floatText (next :: others) ++ code '}' :: rest))
          have hothers := ih (List.cons_ne_nil _ _)
            (fun other hother => hclean other (List.mem_cons_of_mem _ hother))
            (fun other hother => hbegins other (List.mem_cons_of_mem _ hother))
            (fun other hother => h other (List.mem_cons_of_mem _ hother))
            (Nat.le_of_succ_le_succ hfuel)
          have hbegin : Begins (writeMembers floatText (next :: others)) :=
            begins_writeMembers (List.cons_ne_nil next others)
          have hskip := (hbegin.append (code '}' :: rest)).skipSpace
          rw [scanMembers, writeMembers_cons_cons]
          simp only [List.append_assoc, List.cons_append]
          rw [hread]
          show pushValue member (scanMembers scan fuel (skipSpace _)) = _
          rw [hskip, hothers]
          rfl

theorem setMember_new {members : Members F} {member : Codes × Value F}
    (h : member.1 ∉ members.map (·.1)) : setMember members member = members ++ [member] := by
  induction members with
  | nil => rfl
  | cons other rest ih =>
      rw [List.map_cons, List.mem_cons, not_or] at h
      rw [setMember, if_neg (Ne.symm h.1), ih h.2]
      rfl

theorem mem_of_mem_setMember {members : Members F} {member entry : Codes × Value F}
    (h : entry ∈ setMember members member) : entry = member ∨ entry ∈ members := by
  induction members with
  | nil => exact .inl (List.mem_singleton.mp h)
  | cons other rest ih =>
      unfold setMember at h
      split_ifs at h
      · rcases List.mem_cons.mp h with rfl | h
        · exact .inl rfl
        · exact .inr (List.mem_cons_of_mem other h)
      · rcases List.mem_cons.mp h with rfl | h
        · exact .inr List.mem_cons_self
        · rcases ih h with rfl | h
          · exact .inl rfl
          · exact .inr (List.mem_cons_of_mem other h)

/-- Members of different names are a dictionary. -/
theorem toDict_of_nodup {members : Members F} (h : (members.map (·.1)).Nodup) :
    toDict members = members := by
  have hfold : ∀ (others found : Members F), ((found ++ others).map (·.1)).Nodup →
      others.foldl setMember found = found ++ others := by
    intro others
    induction others with
    | nil =>
        intro found _
        exact (List.append_nil found).symm
    | cons member rest ih =>
        intro found hnodup
        have hnew : member.1 ∉ found.map (·.1) := by
          intro hmem
          rw [List.map_append, List.map_cons, List.nodup_append] at hnodup
          exact hnodup.2.2 _ hmem _ List.mem_cons_self rfl
        rw [List.foldl_cons, setMember_new hnew, ih, List.append_assoc, List.singleton_append]
        rw [List.append_assoc, List.singleton_append]
        exact hnodup
  exact hfold members [] h

theorem scanObject_write {members : Members F} (hnames : (members.map (·.1)).Nodup)
    (hclean : ∀ member ∈ members, Clean member.1)
    (hbegins : ∀ member ∈ members, Begins (write floatText member.2))
    (h : ∀ member ∈ members, Reads floatText scan member.2) (rest : Codes) :
    scanObject scan (writeMembers floatText members ++ code '}' :: rest)
      = .ok (.obj members, rest) := by
  by_cases hne : members = []
  · subst hne
    rfl
  · have hfuel : members.length ≤ (writeMembers floatText members).length :=
      length_le_writeMembers members
    have hscan : ∀ fuel, members.length ≤ fuel →
        scanMembers scan fuel (writeMembers floatText members ++ code '}' :: rest)
          = .ok (members, rest) :=
      fun fuel hfuel => scanMembers_write hne hclean hbegins h hfuel rest
    obtain ⟨tail, htext⟩ : ∃ tail, writeMembers floatText members = code '"' :: tail :=
      writeMembers_quote hne
    have hend : code '"' ≠ code '}' := by decide
    rw [scanObject]
    rw [htext] at hfuel hscan ⊢
    rw [List.cons_append] at hscan ⊢
    rw [skipSpace, List.dropWhile_cons_of_neg (by decide)]
    simp only [if_neg hend]
    rw [hscan]
    · exact congrArg (fun members => Except.ok (Value.obj members, rest)) (toDict_of_nodup hnames)
    · rw [List.length_append]
      rw [List.length_cons] at hfuel
      omega

end

variable (readFloat maxDigits) in

/-- `scan_once` on what is neither a string nor an object nor an array. -/
theorem scanWith_plain (object array : Codes → Except ReadError (Value F × Codes)) {input : Codes}
    (h : ∃ c tail, input = c :: tail ∧ StartsPlain c) :
    scanWith readFloat maxDigits object array input = scanPlain readFloat maxDigits input := by
  obtain ⟨c, tail, rfl, hc⟩ := h
  obtain ⟨-, hquote, hbrace, hbracket, -⟩ := hc.other
  rw [scanWith, if_neg hquote, if_neg hbrace, if_neg hbracket]

theorem scanOnce_plain (depth : Nat) {input : Codes}
    (h : ∃ c tail, input = c :: tail ∧ StartsPlain c) :
    scanOnce readFloat maxDigits depth input = scanPlain readFloat maxDigits input := by
  cases depth with
  | zero => exact scanWith_plain readFloat maxDigits _ _ h
  | succ depth => exact scanWith_plain readFloat maxDigits _ _ h

theorem scanOnce_quote (depth : Nat) {text : Codes} (h : Clean text) (rest : Codes) :
    scanOnce readFloat maxDigits depth (quote text ++ rest) = .ok (.str text, rest) := by
  have hstring := scanString_quote h rest
  simp only [quote, List.cons_append, List.append_assoc, List.nil_append]
  cases depth with
  | zero =>
      rw [scanOnce, scanWith, if_pos rfl, hstring]
      rfl
  | succ depth =>
      rw [scanOnce, scanWith, if_pos rfl, hstring]
      rfl

/-- **What is written is read back, wherever it ends.** -/
theorem scanOnce_write {depth : Nat} {value : Value F}
    (h : Readable floatText readFloat maxDigits depth value) :
    Reads floatText (scanOnce readFloat maxDigits depth) value := by
  have happend : ∀ {text : Codes} (rest : Codes), (∃ c tail, text = c :: tail ∧ StartsPlain c) →
      ∃ c tail, text ++ rest = c :: tail ∧ StartsPlain c := by
    rintro text rest ⟨c, tail, rfl, hc⟩
    exact ⟨c, tail ++ rest, rfl, hc⟩
  induction h with
  | null depth =>
      intro rest _
      rw [write, scanOnce_plain depth (happend rest ⟨_, _, codes_null, .inr (by decide)⟩)]
      exact scanPlain_null readFloat rest
  | bool depth b =>
      intro rest _
      have hstart : ∃ c tail, (if b then codes "true" else codes "false") = c :: tail
          ∧ StartsPlain c := by
        cases b with
        | true => exact ⟨_, _, codes_true, .inr (by decide)⟩
        | false => exact ⟨_, _, codes_false, .inr (by decide)⟩
      rw [write, scanOnce_plain depth (happend rest hstart)]
      exact scanPlain_bool readFloat b rest
  | int depth hn =>
      intro rest hrest
      rw [write, scanOnce_plain depth (happend rest (startsPlain_intText _))]
      exact scanPlain_intText readFloat hn hrest
  | float depth hfloat =>
      intro rest hrest
      rw [write, scanOnce_plain depth (happend rest (startsPlain_float hfloat))]
      exact hfloat maxDigits rest hrest
  | str depth htext =>
      intro rest _
      exact scanOnce_quote depth htext rest
  | arr h ih =>
      intro rest _
      have hbracket : code '[' ≠ code '"' ∧ code '[' ≠ code '{' := by decide
      simp only [write, List.cons_append, List.append_assoc, List.nil_append]
      rw [scanOnce, scanWith, if_neg hbracket.1, if_neg hbracket.2, if_pos rfl]
      exact scanArray_write (fun item hitem => begins_write (h item hitem)) ih rest
  | obj names clean h ih =>
      intro rest _
      have hbrace : code '{' ≠ code '"' := by decide
      simp only [write, List.cons_append, List.append_assoc, List.nil_append]
      rw [scanOnce, scanWith, if_neg hbrace, if_pos rfl]
      exact scanObject_write names clean (fun member hmember => begins_write (h member hmember))
        ih rest

/-- **`json.loads(json.dumps(value))` is the value.** -/
theorem loads_write {depth : Nat} {value : Value F}
    (h : Readable floatText readFloat maxDigits depth value) :
    loads readFloat maxDigits depth (write floatText value) = .ok value := by
  have hread := scanOnce_write h [] ends_nil
  rw [List.append_nil] at hread
  rw [loads, (begins_write h).skipSpace, hread]
  rfl

/-- **Different values have different texts.** -/
theorem write_injective {digitsA depthA digitsB depthB : Nat} {a b : Value F}
    (ha : Readable floatText readFloat digitsA depthA a)
    (hb : Readable floatText readFloat digitsB depthB b)
    (h : write floatText a = write floatText b) : a = b := by
  have hreadA := loads_write
    (ha.mono (le_max_left digitsA digitsB) (le_max_left depthA depthB))
  have hreadB := loads_write
    (hb.mono (le_max_right digitsA digitsB) (le_max_right depthA depthB))
  rw [h, hreadB] at hreadA
  exact (Except.ok.inj hreadA).symm

end

/-! ### Dictionaries -/

section

variable {F : Type}

/-- `mapping.get(key)`. -/
def get? (members : Members F) (key : Codes) : Option (Value F) :=
  (members.find? fun member => member.1 = key).map (·.2)

/-- `value == text`. -/
def isText (text : String) : Option (Value F) → Bool
  | some (.str read) => read = codes text
  | _ => false

/-- The same dictionary, whatever the order of its members. -/
def SameDict (a b : Members F) : Prop := ∀ key, get? a key = get? b key

theorem codes_injective : Function.Injective codes := by
  intro a b h
  apply String.toList_inj.mp
  exact (List.map_injective_iff.mpr fun c d hcd => Char.toNat_inj.mp hcd) h

@[simp] theorem codes_inj {a b : String} : codes a = codes b ↔ a = b := codes_injective.eq_iff

theorem get?_eq_some {members : Members F}
    (h : (members.map (·.1)).Nodup) {key : Codes} {value : Value F} :
    get? members key = some value ↔ (key, value) ∈ members := by
  induction members with
  | nil => simp [get?]
  | cons member rest ih =>
      rw [List.map_cons, List.nodup_cons] at h
      obtain ⟨name, found⟩ := member
      have hrest := ih h.2
      unfold get? at hrest ⊢
      by_cases hname : name = key
      · subst hname
        have hnew : (name, value) ∉ rest := fun hmem => h.1 (List.mem_map.mpr ⟨_, hmem, rfl⟩)
        simp [hnew, eq_comm]
      · have hne : key ≠ name := Ne.symm hname
        rw [List.find?_cons_of_neg (by simpa using hname), hrest]
        simp [hne]

/-- Members of different names are the same dictionary in any order. -/
theorem sameDict_of_perm {a b : Members F} (h : a.Perm b)
    (hnodup : (a.map (·.1)).Nodup) : SameDict a b := by
  intro key
  apply Option.ext
  intro value
  rw [get?_eq_some hnodup, get?_eq_some ((h.map _).nodup_iff.mp hnodup), h.mem_iff]

end

theorem textOf_codes (text : String) : textOf (codes text) = text := by
  have hmap : (codes text).map Char.ofNat = text.toList := by
    rw [codes, codesOf, List.map_map]
    conv_rhs => rw [← List.map_id text.toList]
    exact List.map_congr_left fun c _ => Char.ofNat_toNat c
  rw [textOf, hmap, String.ofList_toList]

/-! ### Values of requests and columns -/

section

variable {F : Type} (number : Rat → F)

mutual

/-- What is read from the text of a value.  A number that is not whole is a float. -/
def ofJson : Json → Value F
  | .null => .null
  | .bool b => .bool b
  | .num q => if q.den = 1 then .int q.num else .float (number q)
  | .str text => .str (codes text)
  | .arr items => .arr (ofItems items)
  | .obj members => .obj (ofMembers members)

/-- Every item, as a value that is written. -/
def ofItems : List Json → List (Value F)
  | [] => []
  | item :: rest => ofJson item :: ofItems rest

/-- Every member, as one that is written. -/
def ofMembers : List (String × Json) → Members F
  | [] => []
  | (key, value) :: rest => (codes key, ofJson value) :: ofMembers rest

end

variable {number} {floatText : F → Codes} {text : Rat → List Char}

theorem codesOf_flatMap (f : Char → List Char) (chars : List Char) :
    codesOf (chars.flatMap f) = chars.flatMap fun c => codesOf (f c) := List.map_flatMap

theorem escapeCode_code (c : Char) : codesOf (JsonText.escapeChar c) = escapeCode (code c) := by
  have hquote : c = '"' ↔ code c = code '"' := Char.toNat_inj.symm
  have hbackslash : c = '\\' ↔ code c = code '\\' := Char.toNat_inj.symm
  unfold JsonText.escapeChar escapeCode
  simp only [hquote, hbackslash]
  split_ifs <;> rfl

theorem quote_codes (text : String) : codesOf (JsonText.quote text) = quote (codes text) := by
  have hbody : codesOf (text.toList.flatMap JsonText.escapeChar)
      = (codes text).flatMap escapeCode := by
    rw [codesOf_flatMap, codes, codesOf, List.flatMap_map]
    exact congrArg text.toList.flatMap (funext escapeCode_code)
  rw [quote, ← hbody]
  exact List.map_append

/-- Strings with the same text in quotes are the same. -/
theorem quote_injective : Function.Injective JsonText.quote := by
  intro a b h
  have hcodes := congrArg codesOf h
  rw [quote_codes, quote_codes] at hcodes
  have hinner : (codes a).flatMap escapeCode ++ [code '"']
      = (codes b).flatMap escapeCode ++ [code '"'] := (List.cons.inj hcodes).2
  have ha := scanString_quote (clean_codes a) []
  have hb := scanString_quote (clean_codes b) []
  rw [hinner, hb] at ha
  exact codes_injective (Prod.mk.inj (Except.ok.inj ha)).1.symm

theorem intText_codes (n : Int) : codesOf (JsonText.int n) = intText n := by
  unfold JsonText.int intText
  split_ifs
  · rfl
  · rfl

/-- A value whose numbers are whole. -/
inductive Whole : Json → Prop
  | null : Whole .null
  | bool (b : Bool) : Whole (.bool b)
  | num {q : Rat} (h : q.den = 1) : Whole (.num q)
  | str (text : String) : Whole (.str text)
  | arr {items : List Json} (h : ∀ item ∈ items, Whole item) : Whole (.arr items)
  | obj {members : List (String × Json)} (h : ∀ member ∈ members, Whole member.2) :
      Whole (.obj members)

theorem writeItems_codes {items : List Json} (h : ∀ item ∈ items,
      codesOf (JsonText.write text item) = write floatText (ofJson number item)) :
    codesOf (JsonText.writeItems text items) = writeItems floatText (ofItems number items) := by
  match items with
  | [] => rfl
  | [item] => exact h item List.mem_cons_self
  | item :: next :: others =>
      have hitem := h item List.mem_cons_self
      have hothers := writeItems_codes fun other hother => h other (List.mem_cons_of_mem item hother)
      rw [ofItems, ofItems, writeItems_cons_cons, ← hitem, ← ofItems, ← hothers]
      exact List.map_append

theorem writeMembers_codes {members : List (String × Json)} (h : ∀ member ∈ members,
      codesOf (JsonText.write text member.2) = write floatText (ofJson number member.2)) :
    codesOf (JsonText.writeMembers text members)
      = writeMembers floatText (ofMembers number members) := by
  match members with
  | [] => rfl
  | [(key, value)] =>
      have hvalue := h (key, value) List.mem_cons_self
      rw [ofMembers, ofMembers, writeMembers, ← hvalue, ← quote_codes]
      exact List.map_append
  | (key, value) :: next :: others =>
      have hvalue := h (key, value) List.mem_cons_self
      have hothers := writeMembers_codes fun other hother =>
        h other (List.mem_cons_of_mem (key, value) hother)
      rw [ofMembers, ofMembers, writeMembers_cons_cons, ← hvalue, ← quote_codes, ← ofMembers,
        ← hothers]
      simp only [JsonText.writeMembers, codesOf, List.map_append, List.map_cons]

/-- **`JsonText` writes the same text.** -/
theorem write_codes {value : Json} (h : Whole value) :
    codesOf (JsonText.write text value) = write floatText (ofJson number value) := by
  induction h with
  | null => rfl
  | bool b => cases b <;> rfl
  | num h =>
      rw [JsonText.write, ofJson, if_pos h, if_pos h]
      exact intText_codes _
  | str text => exact quote_codes text
  | arr h ih =>
      rw [JsonText.write, ofJson, write, ← writeItems_codes ih]
      exact List.map_append
  | obj h ih =>
      rw [JsonText.write, ofJson, write, ← writeMembers_codes ih]
      exact List.map_append

theorem codes_dumps {value : Json} (h : Whole value) :
    codes (JsonText.dumps text value) = write floatText (ofJson number value) := by
  rw [← write_codes h, codes, JsonText.dumps, String.toList_ofList]

end

end JsonRead

end ControlPlane
