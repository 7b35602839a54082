/-
Base64 with the standard alphabet and padding.

Three bytes are four digits of six bits.  What is needed of the text is that the bytes are
read back from it.
-/
import ControlPlane.Lib.Bytes

namespace ControlPlane

namespace Base64

/-- The digits, in the order of their values. -/
def alphabet : List Char :=
  "ABCDEFGHIJKLMNOPQRSTUVWXYZabcdefghijklmnopqrstuvwxyz0123456789+/".toList

/-- The digit of a value below 64. -/
def digit (n : Nat) : Char := alphabet.getD n 'A'

/-- The value of a digit. -/
def value? (c : Char) : Option Nat :=
  if 'A' ≤ c ∧ c ≤ 'Z' then some (c.toNat - 65)
  else if 'a' ≤ c ∧ c ≤ 'z' then some (c.toNat - 71)
  else if '0' ≤ c ∧ c ≤ '9' then some (c.toNat + 4)
  else if c = '+' then some 62
  else if c = '/' then some 63
  else none

/-- Three bytes are four digits, and what is missing is padded. -/
def encode : Bytes → List Char
  | [] => []
  | [a] => [digit (a.toNat / 4), digit (a.toNat % 4 * 16), '=', '=']
  | [a, b] =>
      [digit (a.toNat / 4), digit (a.toNat % 4 * 16 + b.toNat / 16), digit (b.toNat % 16 * 4), '=']
  | a :: b :: c :: rest =>
      digit (a.toNat / 4) :: digit (a.toNat % 4 * 16 + b.toNat / 16)
        :: digit (b.toNat % 16 * 4 + c.toNat / 64) :: digit (c.toNat % 64) :: encode rest

/-- The bytes of a group of four digits, of which the last may be padding, in front of `rest`. -/
def decode : List Char → Option Bytes
  | [] => some []
  | [i, j, '=', '='] => do
      let i ← value? i
      let j ← value? j
      some [UInt8.ofNat (i * 4 + j / 16)]
  | [i, j, k, '='] => do
      let i ← value? i
      let j ← value? j
      let k ← value? k
      some [UInt8.ofNat (i * 4 + j / 16), UInt8.ofNat (j % 16 * 16 + k / 4)]
  | i :: j :: k :: l :: rest => do
      let i ← value? i
      let j ← value? j
      let k ← value? k
      let l ← value? l
      let bytes ← decode rest
      some (UInt8.ofNat (i * 4 + j / 16) :: UInt8.ofNat (j % 16 * 16 + k / 4)
        :: UInt8.ofNat (k % 4 * 64 + l) :: bytes)
  | _ => none

theorem alphabet_eq : alphabet =
    ['A', 'B', 'C', 'D', 'E', 'F', 'G', 'H', 'I', 'J', 'K', 'L', 'M', 'N', 'O', 'P', 'Q', 'R', 'S',
     'T', 'U', 'V', 'W', 'X', 'Y', 'Z', 'a', 'b', 'c', 'd', 'e', 'f', 'g', 'h', 'i', 'j', 'k', 'l',
     'm', 'n', 'o', 'p', 'q', 'r', 's', 't', 'u', 'v', 'w', 'x', 'y', 'z', '0', '1', '2', '3', '4',
     '5', '6', '7', '8', '9', '+', '/'] :=
  String.toList_ofList

theorem digit_spec : ∀ n < 64, value? (digit n) = some n ∧ digit n ≠ '=' := by
  simp only [digit, alphabet_eq]
  decide

theorem value?_digit (n : Nat) (hn : n < 64) : value? (digit n) = some n := (digit_spec n hn).1

theorem digit_ne_padding (n : Nat) (hn : n < 64) : digit n ≠ '=' := (digit_spec n hn).2

theorem decode_group {i j k l : Nat} (hi : i < 64) (hj : j < 64) (hk : k < 64) (hl : l < 64)
    (rest : List Char) : decode (digit i :: digit j :: digit k :: digit l :: rest)
      = (decode rest).map fun bytes => UInt8.ofNat (i * 4 + j / 16)
          :: UInt8.ofNat (j % 16 * 16 + k / 4) :: UInt8.ofNat (k % 4 * 64 + l) :: bytes := by
  rw [decode]
  · simp only [value?_digit _ hi, value?_digit _ hj, value?_digit _ hk, value?_digit _ hl,
      Option.bind_eq_bind, Option.bind_some]
    cases decode rest <;> rfl
  · intro _ hpadding
    exact absurd hpadding (digit_ne_padding l hl)
  · intro hpadding
    exact absurd hpadding (digit_ne_padding l hl)

/-- **Decoding what was encoded gives the bytes back.** -/
theorem decode_encode (bytes : Bytes) : decode (encode bytes) = some bytes := by
  induction bytes using encode.induct with
  | case1 => rfl
  | case2 a =>
      have ha := a.toNat_lt
      have hvalue : a.toNat / 4 * 4 + a.toNat % 4 * 16 / 16 = a.toNat := by omega
      show decode [digit (a.toNat / 4), digit (a.toNat % 4 * 16), '=', '='] = some [a]
      simp only [decode, value?_digit (a.toNat / 4) (by omega),
        value?_digit (a.toNat % 4 * 16) (by omega), Option.bind_eq_bind, Option.bind_some, hvalue,
        UInt8.ofNat_toNat]
  | case3 a b =>
      have ha := a.toNat_lt
      have hb := b.toNat_lt
      have hfirst : a.toNat / 4 * 4 + (a.toNat % 4 * 16 + b.toNat / 16) / 16 = a.toNat := by omega
      have hsecond : (a.toNat % 4 * 16 + b.toNat / 16) % 16 * 16 + b.toNat % 16 * 4 / 4
          = b.toNat := by omega
      have hk : b.toNat % 16 * 4 < 64 := by omega
      show decode [digit (a.toNat / 4), digit (a.toNat % 4 * 16 + b.toNat / 16),
        digit (b.toNat % 16 * 4), '='] = some [a, b]
      rw [decode]
      · simp only [value?_digit (a.toNat / 4) (by omega),
          value?_digit (a.toNat % 4 * 16 + b.toNat / 16) (by omega), value?_digit _ hk,
          Option.bind_eq_bind, Option.bind_some, hfirst, hsecond, UInt8.ofNat_toNat]
      · exact fun hpadding => absurd hpadding (digit_ne_padding _ hk)
  | case4 a b c rest ih =>
      have ha := a.toNat_lt
      have hb := b.toNat_lt
      have hc := c.toNat_lt
      have hfirst : a.toNat / 4 * 4 + (a.toNat % 4 * 16 + b.toNat / 16) / 16 = a.toNat := by omega
      have hsecond : (a.toNat % 4 * 16 + b.toNat / 16) % 16 * 16
          + (b.toNat % 16 * 4 + c.toNat / 64) / 4 = b.toNat := by omega
      have hthird : (b.toNat % 16 * 4 + c.toNat / 64) % 4 * 64 + c.toNat % 64 = c.toNat := by omega
      rw [encode, decode_group (by omega) (by omega) (by omega) (by omega), ih, hfirst, hsecond,
        hthird]
      simp only [UInt8.ofNat_toNat, Option.map_some]

end Base64

end ControlPlane
