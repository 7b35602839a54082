/-
Byte strings and the text encodings of them.

Digests travel through a service as lowercase hex text and are hashed as raw
bytes, so every statement about what is hashed crosses the border between the two.
What is needed of the border is that it loses nothing: decoding what was encoded
gives the bytes back, and a lowercase text of even length is the encoding of what
it decodes to.  The second fact is what makes two texts with equal bytes equal.

`fromHex` follows the usual reader of hex text, which skips ASCII white space
between two bytes and takes digits of either case.
-/
import Mathlib.Algebra.Group.Nat.Defs
import Mathlib.Data.List.Basic
import Mathlib.Data.Nat.Notation

namespace ControlPlane

/-- A byte string. -/
abbrev Bytes := List UInt8

namespace Hex

/-- The lowercase digit of a value below sixteen. -/
def digit (n : Nat) : Char :=
  if n < 10 then Char.ofNat (48 + n) else Char.ofNat (87 + n)

/-- The value of a hex digit of either case. -/
def value? (c : Char) : Option Nat :=
  if '0' ≤ c ∧ c ≤ '9' then some (c.toNat - 48)
  else if 'a' ≤ c ∧ c ≤ 'f' then some (c.toNat - 87)
  else if 'A' ≤ c ∧ c ≤ 'F' then some (c.toNat - 55)
  else none

/-- The white space a hex reader skips. -/
def isSpace (c : Char) : Bool :=
  c = ' ' || c = '\t' || c = '\n' || c = '\r' || c.toNat = 11 || c.toNat = 12

/-- The two digits of a byte. -/
def ofByte (b : UInt8) : List Char := [digit (b.toNat / 16), digit (b.toNat % 16)]

/-- The lowercase hex digits of a byte string. -/
def encode (bs : Bytes) : List Char := bs.flatMap ofByte

/-- The bytes a hex text stands for, or nothing when it is not hex. -/
def decode : List Char → Option Bytes
  | [] => some []
  | c :: rest =>
      if isSpace c then decode rest
      else
        match rest with
        | [] => none
        | d :: rest' => do
            let hi ← value? c
            let lo ← value? d
            let bs ← decode rest'
            some (UInt8.ofNat (16 * hi + lo) :: bs)

end Hex

/-- `bytes.hex()`. -/
def toHex (bs : Bytes) : String := String.ofList (Hex.encode bs)

/-- `bytes.fromhex`. -/
def fromHex (s : String) : Option Bytes := Hex.decode s.toList

/-- The unsigned big-endian encoding in `width` bytes, when the value fits. -/
def toBytesBig (n width : Nat) : Option Bytes :=
  if n < 256 ^ width then
    some ((List.range width).reverse.map fun i => UInt8.ofNat (n / 256 ^ i))
  else none

namespace Hex

theorem value?_digit : ∀ n < 16, value? (digit n) = some n := by decide

theorem isSpace_digit : ∀ n < 16, isSpace (digit n) = false := by decide

theorem digit_value (b : UInt8) :
    UInt8.ofNat (16 * (b.toNat / 16) + b.toNat % 16) = b := by
  rw [Nat.div_add_mod]
  exact UInt8.ofNat_toNat

@[simp] theorem length_encode (bs : Bytes) : (encode bs).length = 2 * bs.length := by
  induction bs with
  | nil => rfl
  | cons b rest ih =>
      have : (encode (b :: rest)).length = 2 + (encode rest).length := by
        simp [encode, ofByte]; omega
      rw [this, ih, List.length_cons]
      omega

theorem decode_ofByte (b : UInt8) (cs : List Char) :
    decode (ofByte b ++ cs) = (decode cs).map (b :: ·) := by
  have hhi : b.toNat / 16 < 16 := by have := b.toNat_lt; omega
  have hlo : b.toNat % 16 < 16 := Nat.mod_lt _ (by decide)
  simp only [ofByte, List.cons_append, List.nil_append, decode, isSpace_digit _ hhi,
    Bool.false_eq_true, if_false, value?_digit _ hhi, value?_digit _ hlo]
  cases decode cs with
  | none => rfl
  | some bs => simp only [Option.bind_eq_bind, Option.bind_some, digit_value, Option.map_some]

/-- Decoding what was encoded gives the bytes back. -/
theorem decode_encode (bs : Bytes) : decode (encode bs) = some bs := by
  induction bs with
  | nil => rfl
  | cons b rest ih =>
      have : encode (b :: rest) = ofByte b ++ encode rest := rfl
      rw [this, decode_ofByte, ih]
      rfl

/-- The lowercase hex digits. -/
def isLower (c : Char) : Bool := ('0' ≤ c && c ≤ '9') || ('a' ≤ c && c ≤ 'f')

theorem isLower_cases {c : Char} (h : isLower c = true) : ∃ n < 16, c = digit n := by
  simp only [isLower, Bool.or_eq_true, Bool.and_eq_true, decide_eq_true_eq] at h
  have hc : c = Char.ofNat c.toNat := (Char.ofNat_toNat c).symm
  rcases h with ⟨h0, h9⟩ | ⟨ha, hf⟩
  · have hlo : 48 ≤ c.toNat := h0
    have hhi : c.toNat ≤ 57 := h9
    refine ⟨c.toNat - 48, by omega, ?_⟩
    rw [digit, if_pos (by omega), show 48 + (c.toNat - 48) = c.toNat by omega]
    exact hc
  · have hlo : 97 ≤ c.toNat := ha
    have hhi : c.toNat ≤ 102 := hf
    refine ⟨c.toNat - 87, by omega, ?_⟩
    rw [digit, if_neg (by omega), show 87 + (c.toNat - 87) = c.toNat by omega]
    exact hc

/-- A lowercase text of even length is the encoding of the bytes it decodes to. -/
theorem exists_encode : ∀ (n : Nat) (cs : List Char), cs.length = 2 * n →
    (∀ c ∈ cs, isLower c = true) → ∃ bs : Bytes, bs.length = n ∧ encode bs = cs := by
  intro n
  induction n with
  | zero =>
      intro cs hlen _
      have hnil : cs = [] := List.length_eq_zero_iff.mp (by simpa using hlen)
      exact ⟨[], rfl, hnil.symm⟩
  | succ n ih =>
      intro cs hlen hlow
      match cs, hlen, hlow with
      | c :: d :: rest, hlen, hlow =>
          obtain ⟨i, hi, hci⟩ := isLower_cases (hlow c (by simp))
          obtain ⟨j, hj, hdj⟩ := isLower_cases (hlow d (by simp))
          obtain ⟨bs, hbs, hrest⟩ := ih rest (by simp at hlen; omega)
            (fun x hx => hlow x (by simp [hx]))
          refine ⟨UInt8.ofNat (16 * i + j) :: bs, by simp [hbs], ?_⟩
          have hval : (UInt8.ofNat (16 * i + j)).toNat = 16 * i + j := by
            rw [UInt8.toNat_ofNat']
            exact Nat.mod_eq_of_lt (by omega)
          have hbyte : ofByte (UInt8.ofNat (16 * i + j)) = [c, d] := by
            rw [ofByte, hval, show (16 * i + j) / 16 = i by omega,
              show (16 * i + j) % 16 = j by omega, hci, hdj]
          show ofByte _ ++ encode bs = c :: d :: rest
          rw [hbyte, hrest]
          rfl

end Hex

/-- Reading back the hex text of a byte string. -/
@[simp] theorem fromHex_toHex (bs : Bytes) : fromHex (toHex bs) = some bs := by
  rw [fromHex, toHex, String.toList_ofList]
  exact Hex.decode_encode bs

theorem toHex_injective : Function.Injective toHex := by
  intro a b h
  have : fromHex (toHex a) = fromHex (toHex b) := by rw [h]
  simpa using this

@[simp] theorem length_toBytesBig {n width : Nat} {bs : Bytes}
    (h : toBytesBig n width = some bs) : bs.length = width := by
  unfold toBytesBig at h
  split at h
  · cases h; simp
  · cases h

end ControlPlane
