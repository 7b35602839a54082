/-
Quotients in double precision, cut to whole numbers.

A double has 53 bits, so a quotient of 2^k or more is a multiple of 2^(k-52), the nearest one and
of two the even one.  Just below a whole number the nearest double may be that number, and then
cutting the quotient gives one more than the division does.
-/
import Mathlib.Data.Nat.Notation
import Mathlib.Data.Nat.Log
import Mathlib.Tactic.Ring

namespace ControlPlane

namespace Double

/-- `n / d` rounded to a whole number, halves to the even one. -/
def roundHalfEven (n d : Nat) : Nat :=
  if 2 * (n % d) < d ∨ 2 * (n % d) = d ∧ n / d % 2 = 0 then n / d else n / d + 1

/-- How many doubles there are for each whole number around a quotient below 2^53. -/
def scale (n d : Nat) : Nat := 2 ^ (52 - Nat.log2 (n / d))

/-- `int(n / d)`.  A quotient below one has a finer scale, which is not used up. -/
def truncQuotient (n d : Nat) : Nat := roundHalfEven (n * scale n d) d / scale n d

example : truncQuotient 253402300799999999 1000000 = 253402300800 := by decide

/-- Rounding reaches a multiple exactly from half of the last step on. -/
theorem le_roundHalfEven_iff {n d m e : Nat} (he : 0 < e) (hm : n + e = d * m) (heven : m % 2 = 0) :
    m ≤ roundHalfEven n d ↔ 2 * e ≤ d := by
  have hdiv := Nat.div_add_mod n d
  have hd : 0 < d := by
    rcases Nat.eq_zero_or_pos d with rfl | hd
    · omega
    · exact hd
  have hmod := Nat.mod_lt n hd
  unfold roundHalfEven
  generalize n / d = q at hdiv ⊢
  generalize n % d = r at hdiv hmod ⊢
  have hlt : q < m := by
    apply Nat.lt_of_mul_lt_mul_left (a := d)
    omega
  rcases Nat.lt_or_ge (q + 1) m with h | h
  · -- two steps away
    have hfar : d * q + 2 * d ≤ d * m := by
      have hmul := Nat.mul_le_mul_left d (show q + 2 ≤ m from h)
      rw [Nat.mul_add] at hmul
      omega
    split_ifs <;> omega
  · obtain rfl : m = q + 1 := by omega
    rw [Nat.mul_add, Nat.mul_one] at hm
    split_ifs with hdown
    · omega
    · omega

theorem scale_even {n d : Nat} (h : Nat.log2 (n / d) < 52) : scale n d % 2 = 0 := by
  have hexponent : 52 - Nat.log2 (n / d) = 51 - Nat.log2 (n / d) + 1 := by omega
  rw [scale, hexponent, pow_succ]
  omega

theorem scale_pos (n d : Nat) : 0 < scale n d := Nat.two_pow_pos _

/-- Rounding stays above the whole number that a quotient is cut to. -/
theorem floor_le_roundHalfEven {d : Nat} (hd : 0 < d) (n s : Nat) :
    n / d * s ≤ roundHalfEven (n * s) d := by
  have hle : n / d * s ≤ n * s / d := by
    rw [Nat.le_div_iff_mul_le hd, Nat.mul_right_comm]
    exact Nat.mul_le_mul_right _ (Nat.div_mul_le_self n d)
  unfold roundHalfEven
  split_ifs
  · exact hle
  · exact hle.trans (Nat.le_succ _)

/-- **A quotient is cut right exactly if it is not within half a step of the next number.** -/
theorem truncQuotient_eq_iff {n d : Nat} (hd : 0 < d) (h : Nat.log2 (n / d) < 52) :
    truncQuotient n d = n / d ↔ d < 2 * ((d - n % d) * scale n d) := by
  have hscale := scale_pos n d
  have hmod := Nat.mod_lt n hd
  have hgap : n * scale n d + (d - n % d) * scale n d = d * ((n / d + 1) * scale n d) := by
    have hdiv := Nat.div_add_mod n d
    have hsum : n + (d - n % d) = d * (n / d + 1) := by
      rw [Nat.mul_add, Nat.mul_one]
      omega
    rw [← Nat.add_mul, hsum, Nat.mul_assoc]
  have heven : (n / d + 1) * scale n d % 2 = 0 := by
    rw [Nat.mul_mod, scale_even h, Nat.mul_zero, Nat.zero_mod]
  have hreach := le_roundHalfEven_iff (Nat.mul_pos (Nat.sub_pos_of_lt hmod) hscale) hgap heven
  have hbelow := floor_le_roundHalfEven hd n (scale n d)
  rw [truncQuotient, ← Nat.not_le, ← hreach, Nat.not_le, Nat.div_eq_iff hscale]
  constructor
  · intro hin
    rw [Nat.add_mul, Nat.one_mul]
    omega
  · intro hlt
    rw [Nat.add_mul, Nat.one_mul] at hlt
    exact ⟨hbelow, by omega⟩

/-- A quotient is not cut to less than the number below it. -/
theorem le_truncQuotient {d : Nat} (hd : 0 < d) (n : Nat) : n / d ≤ truncQuotient n d := by
  rw [truncQuotient, Nat.le_div_iff_mul_le (scale_pos n d)]
  exact floor_le_roundHalfEven hd n (scale n d)

/-- A quotient is cut to the number below it or the next. -/
theorem truncQuotient_le {d : Nat} (hd : 0 < d) (n : Nat) : truncQuotient n d ≤ n / d + 1 := by
  have hscale := scale_pos n d
  have hbelow : n * scale n d / d < (n / d + 1) * scale n d := by
    rw [Nat.div_lt_iff_lt_mul hd, Nat.mul_right_comm]
    exact Nat.mul_lt_mul_of_pos_right (Nat.lt_mul_of_div_lt (Nat.lt_succ_self _) hd) hscale
  have hround : roundHalfEven (n * scale n d) d ≤ (n / d + 1) * scale n d := by
    unfold roundHalfEven
    split_ifs <;> omega
  exact Nat.div_le_of_le_mul (by rwa [Nat.mul_comm (scale n d)])

end Double

end ControlPlane
