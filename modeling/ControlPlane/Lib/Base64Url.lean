/-
Reading URL-safe base64, as `base64.urlsafe_b64decode` does.

The reader is lenient: it skips characters of no digit, ends at the padding of a group and looks
at nothing behind that, and takes the digits of the other alphabet too.  It keeps what a group has
left over and refuses a text that ends inside a group.  Bytes that were written without padding are
read again once the padding is put back (`b64urlDecode_encode`).
-/
import ControlPlane.Lib.JsonRead

namespace ControlPlane

namespace Base64Url

open JsonRead (Codes code codesOf)

/-- The six bits of a character. -/
def sixBits? (c : Nat) : Option Nat :=
  if code 'A' ≤ c ∧ c ≤ code 'Z' then some (c - 65)
  else if code 'a' ≤ c ∧ c ≤ code 'z' then some (c - 71)
  else if code '0' ≤ c ∧ c ≤ code '9' then some (c + 4)
  else if c = code '+' then some 62
  else if c = code '/' then some 63
  else none

/-- `translate` of the URL-safe digits to those of the usual alphabet. -/
def translate (c : Nat) : Nat :=
  if c = code '-' then code '+' else if c = code '_' then code '/' else c

/-- `binascii.a2b_base64` from the middle of a text: `quad` digits of the group were read, of which
the bits `left` are left over, and so many characters of padding behind them. -/
def a2b (quad left pads : Nat) : Codes → Option Bytes
  | [] => if quad = 0 then some [] else none
  | c :: rest =>
      if c = code '=' then
        if 2 ≤ quad then if 4 ≤ quad + (pads + 1) then some [] else a2b quad left (pads + 1) rest
        else a2b quad left pads rest
      else
        match sixBits? c with
        | none => a2b quad left pads rest
        | some v =>
            if quad = 0 then a2b 1 v 0 rest
            else if quad = 1 then
              (a2b 2 (v % 16) 0 rest).map fun bytes => UInt8.ofNat (left * 4 + v / 16) :: bytes
            else if quad = 2 then
              (a2b 3 (v % 4) 0 rest).map fun bytes => UInt8.ofNat (left * 16 + v / 4) :: bytes
            else (a2b 0 0 0 rest).map fun bytes => UInt8.ofNat (left * 64 + v) :: bytes

/-- `base64.urlsafe_b64decode`. -/
def urlsafeB64decode (text : Codes) : Option Bytes :=
  if text.all (· < 128) then a2b 0 0 0 (text.map translate) else none

/-- `_b64url_decode`. -/
def b64urlDecode (text : Codes) : Option Bytes :=
  urlsafeB64decode (text ++ List.replicate ((4 - text.length % 4) % 4) (code '='))

/-! ### What is written is read -/

/-- The digits of the URL-safe alphabet. -/
def alphabet : List Char :=
  "ABCDEFGHIJKLMNOPQRSTUVWXYZabcdefghijklmnopqrstuvwxyz0123456789-_".toList

/-- The code point of a digit. -/
def digit (n : Nat) : Nat := code (alphabet.getD n 'A')

/-- `base64.urlsafe_b64encode` without the padding. -/
def encode : Bytes → Codes
  | [] => []
  | [a] => [digit (a.toNat / 4), digit (a.toNat % 4 * 16)]
  | [a, b] =>
      [digit (a.toNat / 4), digit (a.toNat % 4 * 16 + b.toNat / 16), digit (b.toNat % 16 * 4)]
  | a :: b :: c :: rest =>
      digit (a.toNat / 4) :: digit (a.toNat % 4 * 16 + b.toNat / 16)
        :: digit (b.toNat % 16 * 4 + c.toNat / 64) :: digit (c.toNat % 64) :: encode rest

theorem alphabet_eq : alphabet =
    ['A', 'B', 'C', 'D', 'E', 'F', 'G', 'H', 'I', 'J', 'K', 'L', 'M', 'N', 'O', 'P', 'Q', 'R', 'S',
     'T', 'U', 'V', 'W', 'X', 'Y', 'Z', 'a', 'b', 'c', 'd', 'e', 'f', 'g', 'h', 'i', 'j', 'k', 'l',
     'm', 'n', 'o', 'p', 'q', 'r', 's', 't', 'u', 'v', 'w', 'x', 'y', 'z', '0', '1', '2', '3', '4',
     '5', '6', '7', '8', '9', '-', '_'] :=
  String.toList_ofList

/-- What is known of the digit whose value is `n`: one of the ASCII characters, neither
the dot nor, once translated, the padding, and read as `n`. -/
theorem digit_spec : ∀ n < 64, digit n < 128 ∧ digit n ≠ code '.'
    ∧ translate (digit n) ≠ code '=' ∧ sixBits? (translate (digit n)) = some n := by
  simp only [digit, alphabet_eq]
  decide

theorem digit_ascii (n : Nat) (hn : n < 64) : digit n < 128 := (digit_spec n hn).1

theorem digit_ne_dot (n : Nat) (hn : n < 64) : digit n ≠ code '.' := (digit_spec n hn).2.1

theorem digit_ne_padding (n : Nat) (hn : n < 64) : translate (digit n) ≠ code '=' :=
  (digit_spec n hn).2.2.1

theorem sixBits?_digit (n : Nat) (hn : n < 64) : sixBits? (translate (digit n)) = some n :=
  (digit_spec n hn).2.2.2

section

variable {left pads n : Nat} (hn : n < 64) (rest : Codes)

include hn

theorem a2b_first : a2b 0 left pads (translate (digit n) :: rest) = a2b 1 n 0 rest := by
  rw [a2b, if_neg (digit_ne_padding n hn), sixBits?_digit n hn]
  rfl

theorem a2b_second : a2b 1 left pads (translate (digit n) :: rest)
    = (a2b 2 (n % 16) 0 rest).map fun bytes => UInt8.ofNat (left * 4 + n / 16) :: bytes := by
  rw [a2b, if_neg (digit_ne_padding n hn), sixBits?_digit n hn]
  rfl

theorem a2b_third : a2b 2 left pads (translate (digit n) :: rest)
    = (a2b 3 (n % 4) 0 rest).map fun bytes => UInt8.ofNat (left * 16 + n / 4) :: bytes := by
  rw [a2b, if_neg (digit_ne_padding n hn), sixBits?_digit n hn]
  rfl

theorem a2b_fourth : a2b 3 left pads (translate (digit n) :: rest)
    = (a2b 0 0 0 rest).map fun bytes => UInt8.ofNat (left * 64 + n) :: bytes := by
  rw [a2b, if_neg (digit_ne_padding n hn), sixBits?_digit n hn]
  rfl

end

/-- The padding that is missing behind so many bytes. -/
def padding (bytes : Bytes) : Codes := List.replicate ((3 - bytes.length % 3) % 3) (code '=')

theorem padding_eq (bytes : Bytes) :
    List.replicate ((4 - (encode bytes).length % 4) % 4) (code '=') = padding bytes := by
  have hlength : (4 - (encode bytes).length % 4) % 4 = (3 - bytes.length % 3) % 3 := by
    induction bytes using encode.induct with
    | case1 => rfl
    | case2 a => rfl
    | case3 a b => rfl
    | case4 a b c rest ih =>
        have hencode : (encode (a :: b :: c :: rest)).length = (encode rest).length + 4 := rfl
        rw [hencode, List.length_cons, List.length_cons, List.length_cons]
        omega
  rw [hlength, padding]

/-- **The digits of bytes and their padding are read as the bytes.** -/
theorem a2b_encode (bytes : Bytes) : ∀ left,
    a2b 0 left 0 ((encode bytes ++ padding bytes).map translate) = some bytes := by
  induction bytes using encode.induct with
  | case1 =>
      intro left
      rfl
  | case2 a =>
      intro left
      have ha := a.toNat_lt
      have hshape : (encode [a] ++ padding [a]).map translate
          = translate (digit (a.toNat / 4)) :: translate (digit (a.toNat % 4 * 16))
            :: [code '=', code '='] := rfl
      have hbyte : a.toNat / 4 * 4 + a.toNat % 4 * 16 / 16 = a.toNat := by omega
      rw [hshape, a2b_first (by omega), a2b_second (by omega), hbyte, UInt8.ofNat_toNat]
      rfl
  | case3 a b =>
      intro left
      have ha := a.toNat_lt
      have hb := b.toNat_lt
      have hshape : (encode [a, b] ++ padding [a, b]).map translate
          = translate (digit (a.toNat / 4))
            :: translate (digit (a.toNat % 4 * 16 + b.toNat / 16))
            :: translate (digit (b.toNat % 16 * 4)) :: [code '='] := rfl
      have hfirst : a.toNat / 4 * 4 + (a.toNat % 4 * 16 + b.toNat / 16) / 16 = a.toNat := by omega
      have hsecond : (a.toNat % 4 * 16 + b.toNat / 16) % 16 * 16 + b.toNat % 16 * 4 / 4
          = b.toNat := by omega
      rw [hshape, a2b_first (by omega), a2b_second (by omega), a2b_third (by omega), hfirst,
        hsecond, UInt8.ofNat_toNat, UInt8.ofNat_toNat]
      rfl
  | case4 a b c rest ih =>
      intro left
      have ha := a.toNat_lt
      have hb := b.toNat_lt
      have hc := c.toNat_lt
      have hpadding : padding (a :: b :: c :: rest) = padding rest := by
        have hlength : (3 - (rest.length + 3) % 3) % 3 = (3 - rest.length % 3) % 3 := by omega
        exact congrArg (List.replicate · (code '=')) hlength
      have hshape : (encode (a :: b :: c :: rest) ++ padding (a :: b :: c :: rest)).map translate
          = translate (digit (a.toNat / 4))
            :: translate (digit (a.toNat % 4 * 16 + b.toNat / 16))
            :: translate (digit (b.toNat % 16 * 4 + c.toNat / 64))
            :: translate (digit (c.toNat % 64))
            :: (encode rest ++ padding rest).map translate := by
        rw [hpadding]
        rfl
      have hfirst : a.toNat / 4 * 4 + (a.toNat % 4 * 16 + b.toNat / 16) / 16 = a.toNat := by omega
      have hsecond : (a.toNat % 4 * 16 + b.toNat / 16) % 16 * 16
          + (b.toNat % 16 * 4 + c.toNat / 64) / 4 = b.toNat := by omega
      have hthird : (b.toNat % 16 * 4 + c.toNat / 64) % 4 * 64 + c.toNat % 64 = c.toNat := by omega
      rw [hshape, a2b_first (by omega), a2b_second (by omega), a2b_third (by omega),
        a2b_fourth (by omega), ih, hfirst, hsecond, hthird]
      simp only [UInt8.ofNat_toNat, Option.map_some]

theorem mem_encode {bytes : Bytes} {c : Nat} (h : c ∈ encode bytes) : ∃ n < 64, c = digit n := by
  induction bytes using encode.induct with
  | case1 => exact absurd h List.not_mem_nil
  | case2 a =>
      have ha := a.toNat_lt
      have hshape : encode [a] = [digit (a.toNat / 4), digit (a.toNat % 4 * 16)] := rfl
      rw [hshape] at h
      simp only [List.mem_cons, List.not_mem_nil, or_false] at h
      rcases h with rfl | rfl
      · exact ⟨_, by omega, rfl⟩
      · exact ⟨_, by omega, rfl⟩
  | case3 a b =>
      have ha := a.toNat_lt
      have hb := b.toNat_lt
      have hshape : encode [a, b] = [digit (a.toNat / 4),
        digit (a.toNat % 4 * 16 + b.toNat / 16), digit (b.toNat % 16 * 4)] := rfl
      rw [hshape] at h
      simp only [List.mem_cons, List.not_mem_nil, or_false] at h
      rcases h with rfl | rfl | rfl
      · exact ⟨_, by omega, rfl⟩
      · exact ⟨_, by omega, rfl⟩
      · exact ⟨_, by omega, rfl⟩
  | case4 a b c rest ih =>
      have ha := a.toNat_lt
      have hb := b.toNat_lt
      have hc := c.toNat_lt
      have hshape : encode (a :: b :: c :: rest) = digit (a.toNat / 4)
        :: digit (a.toNat % 4 * 16 + b.toNat / 16) :: digit (b.toNat % 16 * 4 + c.toNat / 64)
        :: digit (c.toNat % 64) :: encode rest := rfl
      rw [hshape] at h
      simp only [List.mem_cons] at h
      rcases h with rfl | rfl | rfl | rfl | h
      · exact ⟨_, by omega, rfl⟩
      · exact ⟨_, by omega, rfl⟩
      · exact ⟨_, by omega, rfl⟩
      · exact ⟨_, by omega, rfl⟩
      · exact ih h

/-- **Bytes that were written without padding are read again.** -/
theorem b64urlDecode_encode (bytes : Bytes) : b64urlDecode (encode bytes) = some bytes := by
  have hascii : ((encode bytes ++ padding bytes).all (· < 128)) = true := by
    rw [List.all_eq_true]
    intro c hc
    rcases List.mem_append.mp hc with hc | hc
    · obtain ⟨n, hn, rfl⟩ := mem_encode hc
      exact decide_eq_true (digit_ascii n hn)
    · rw [List.eq_of_mem_replicate hc]
      decide
  rw [b64urlDecode, padding_eq, urlsafeB64decode, if_pos hascii, a2b_encode]

/-- The text of bytes has no dot. -/
theorem dot_notMem_encode (bytes : Bytes) : code '.' ∉ encode bytes := by
  intro h
  obtain ⟨n, hn, hdot⟩ := mem_encode h
  exact digit_ne_dot n hn hdot.symm

end Base64Url

end ControlPlane
