import Mathlib
import Grok.Number.Binary64
/-!
Whole numbers as binary floating-point numbers. A whole number of at least 53 bits is rounded at the
end of its first 53 bits. Main statement: the floating-point number that is made of these bits shows
the rounded number in front of its point, also where rounding makes it one bit longer.
-/
namespace Grok.Number

@[simp] theorem twoPow_natCast (k : Nat) : twoPow k = 2 ^ k := rfl

@[simp] theorem twoPow_neg_natCast (k : Nat) : twoPow (-k) = 1 := by
  rw [twoPow, Int.toNat_of_nonpos (by omega), Nat.pow_eq, Nat.pow_zero]

theorem div_le_roundHalfEven (num den : Nat) : num / den ≤ roundHalfEven num den := by
  dsimp only [roundHalfEven]
  split
  · exact Nat.le_refl _
  · split
    · exact Nat.le_succ _
    · exact Nat.le_add_right _ _

theorem roundHalfEven_mul_add {den r : Nat} (hr : r < den) (q : Nat) :
    roundHalfEven (den * q + r) den =
      if 2 * r < den then q else if den < 2 * r then q + 1 else q + q % 2 := by
  have hden : 0 < den := Nat.zero_lt_of_lt hr
  rw [roundHalfEven, Nat.mul_add_div hden, Nat.div_eq_of_lt hr, Nat.mul_add_mod,
    Nat.mod_eq_of_lt hr, Nat.add_zero]

namespace Binary64

/-- The number of bits of a whole number behind its first 53. -/
def excess (n : Nat) : Nat := n.log2 - 52

/-- A whole number rounded to 53 bits. -/
def nearest (n : Nat) : Nat := roundHalfEven n (2 ^ excess n) * 2 ^ excess n

/-- A whole number of 53 bits or more, rounded at the end of its first 53 bits. If they overflow,
the next power of two is the same number at the next exponent. -/
def rounded (negative : Bool) (n : Nat) : Binary64 :=
  if roundHalfEven n (2 ^ excess n) = 2 * leadingBit then ⟨negative, leadingBit, excess n + 1⟩
  else ⟨negative, roundHalfEven n (2 ^ excess n), excess n⟩

/-- What stands in front of the point, without its sign. -/
def magnitude (x : Binary64) : Nat := x.mantissa * twoPow x.exponent / twoPow (-x.exponent)

variable {n k : Nat}

theorem truncate_eq (x : Binary64) :
    x.truncate = if x.negative then -(x.magnitude : Int) else x.magnitude := rfl

theorem magnitude_natCast (negative : Bool) (m k : Nat) :
    magnitude ⟨negative, m, k⟩ = m * 2 ^ k := by
  simp [magnitude]

theorem two_pow_excess_le (h : leadingBit ≤ n) : 2 ^ 52 * 2 ^ excess n ≤ n := by
  have hn : n ≠ 0 := Nat.ne_of_gt (Nat.lt_of_lt_of_le (by decide) h)
  have hlog : 52 ≤ n.log2 := (Nat.le_log2 hn).2 h
  rw [← pow_add, excess, Nat.add_sub_cancel' hlog]
  exact Nat.log2_self_le hn

theorem negative_rounded (negative : Bool) (n : Nat) : (rounded negative n).negative = negative := by
  unfold rounded
  split <;> rfl

theorem magnitude_rounded (negative : Bool) (n : Nat) :
    (rounded negative n).magnitude = nearest n := by
  unfold rounded
  split
  · next hcarry =>
    have hexponent : (excess n : Int) + 1 = (excess n + 1 : Nat) := rfl
    rw [hexponent, magnitude_natCast, nearest, hcarry, pow_succ]
    ring
  · exact magnitude_natCast _ _ _

theorem exponent_rounded_le (negative : Bool) (n : Nat) :
    (rounded negative n).exponent ≤ excess n + 1 := by
  unfold rounded
  split
  · exact Int.le_refl _
  · exact Int.le_add_of_nonneg_right (by decide)

theorem excess_eq (hk : 2 ^ k ≤ n) (hn : n < 2 ^ (k + 1)) : excess n = k - 52 := by
  have hne : n ≠ 0 := Nat.ne_of_gt (Nat.lt_of_lt_of_le (by positivity) hk)
  rw [excess, (Nat.log2_eq_iff hne).2 ⟨hk, hn⟩]

/-- The distance between neighbours above a power of two, which is twice the distance below. -/
theorem two_pow_eq_gap (hk : 53 ≤ k) :
    2 ^ k = 2 ^ (k - 52) * 2 ^ 52 ∧ 2 ^ (k - 52) = 2 * 2 ^ (k - 53) := by
  constructor
  · rw [← pow_add]
    congr 1
    omega
  · rw [← pow_succ']
    congr 1
    omega

end Binary64

end Grok.Number
