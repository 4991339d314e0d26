import Mathlib
import Grok.Coercion
import Grok.Proofs.Number.Quotient
/-!
Whole numbers as captured text. Main statement: a whole number that 64 bits hold, with a sign or
without one, is read exactly; the numbers below them that the nearest floating-point number puts
at their lower end are read as that end, and every other one is null.
-/
namespace Grok.Number

/-- The number that digits stand for by their places. -/
def placeValue (ds : List Char) : Nat :=
  Nat.ofDigits 10 (ds.reverse.map fun c => c.toNat - '0'.toNat)

/-- At least one character, and digits only. -/
def AreDigits (ds : List Char) : Prop := ds ≠ [] ∧ ds.all Char.isDigit

/-- The ways to write a whole number. -/
inductive Numeral : List Char → Int → Prop
  | unsigned {ds : List Char} : AreDigits ds → Numeral ds (placeValue ds)
  | plus {ds : List Char} : AreDigits ds → Numeral ('+' :: ds) (placeValue ds)
  | minus {ds : List Char} : AreDigits ds → Numeral ('-' :: ds) (-(placeValue ds : Int))

variable {cs ds : List Char} {z : Int}

theorem digitsValue_eq (ds : List Char) : digitsValue ds = placeValue ds := by
  induction ds using List.reverseRecOn with
  | nil => rfl
  | append_singleton ds c ih =>
    rw [digitsValue, List.foldl_append, List.foldl_cons, List.foldl_nil, ← digitsValue, ih,
      placeValue, placeValue, List.reverse_append, List.map_append, Nat.ofDigits_append]
    simp [Nat.add_comm]

theorem AreDigits.sign (h : AreDigits ds) : sign ds = (false, ds) := by
  have hds := List.all_eq_true.1 h.2
  unfold Number.sign
  split
  · exact absurd (hds '-' (.head _)) (by decide)
  · exact absurd (hds '+' (.head _)) (by decide)
  · rfl

/-- The sign of a numeral is all that stands in front of its digits. -/
theorem Numeral.sign_spec (h : Numeral cs z) :
    AreDigits (sign cs).2 ∧
      z = if (sign cs).1 then -(placeValue (sign cs).2 : Int) else placeValue (sign cs).2 := by
  cases h with
  | unsigned hds =>
    rw [hds.sign]
    exact ⟨hds, rfl⟩
  | plus hds => exact ⟨hds, rfl⟩
  | minus hds => exact ⟨hds, rfl⟩

theorem Numeral.integer? (h : Numeral cs z) : integer? cs = some z := by
  obtain ⟨⟨hne, hall⟩, hz⟩ := h.sign_spec
  have hempty : (sign cs).2.isEmpty = false := List.isEmpty_eq_false_iff.2 hne
  simp only [Number.integer?, hempty, hall, Bool.not_true, Bool.or_self, Bool.false_eq_true,
    if_false, digitsValue_eq, hz]
  split <;> rfl

theorem Numeral.ofText? (h : Numeral cs z) :
    Decimal.ofText? cs = some ⟨(sign cs).1, z.natAbs, 0⟩ := by
  obtain ⟨⟨hne, hall⟩, hz⟩ := h.sign_spec
  have hds := List.all_eq_true.1 hall
  have hspan : spanDigits (sign cs).2 = ((sign cs).2, []) := by
    rw [spanDigits, List.takeWhile_eq_self_iff.2 hds, List.dropWhile_eq_nil_iff.2 hds]
  have habs : z.natAbs = placeValue (sign cs).2 := by
    rw [hz]
    split <;> simp
  simp [Decimal.ofText?, hspan, hne, exponent?, digitsValue_eq, habs]

end Grok.Number

namespace Grok.Coercion

open Number

variable {cs : List Char} {z : Int} {text : String}

theorem signed?_of_numeral (h : Numeral cs z) :
    signed? cs = if fitsSigned z then some z else none := by
  rw [signed?, h.integer?, Option.filter_some]

/-- A minus makes no difference, since it leaves no number above zero. -/
theorem unsigned?_of_numeral (h : Numeral cs z) (hz : z ≠ 0) :
    unsigned? cs = if fitsUnsigned z then some z else none := by
  rw [unsigned?, h.integer?, Option.filter_some]
  split
  · next hminus =>
    have hsign : (sign cs).1 = true := by
      cases cs with
      | nil => cases hminus
      | cons c cs =>
        obtain rfl : c = '-' := by simpa using hminus
        rfl
    have hneg : z ≤ 0 := by
      rw [h.sign_spec.2, hsign]
      simp
    rw [if_neg]
    simp only [fitsUnsigned, Bool.and_eq_true, decide_eq_true_eq]
    omega
  · rfl

theorem float?_of_numeral (h : Numeral cs z) (hz : z ≠ 0) :
    float? cs = Binary64.ofRatio (sign cs).1 z.natAbs 1 := by
  have hdigits : z.natAbs ≠ 0 := Int.natAbs_ne_zero.2 hz
  have hsmall : ¬ (0 : Int) + z.natAbs.log2 + 1 < -400 := by omega
  rw [float?, h.ofText?, Option.bind_some, Binary64.ofDecimal]
  simp only [hdigits, hsmall, if_false]
  rw [if_neg (by decide)]
  simp [tenPow]

/-- The number nearest to a whole number with a sign. -/
def nearest (z : Int) : Int :=
  if z < 0 then -(Binary64.nearest z.natAbs : Int) else Binary64.nearest z.natAbs

theorem fitsSigned_iff : fitsSigned z ↔ -2 ^ 63 ≤ z ∧ z < 2 ^ 63 := by
  rw [fitsSigned, Bool.and_eq_true, decide_eq_true_eq, decide_eq_true_eq]
  norm_num

theorem fitsUnsigned_iff : fitsUnsigned z ↔ 0 ≤ z ∧ z < 2 ^ 64 := by
  rw [fitsUnsigned, Bool.and_eq_true, decide_eq_true_eq, decide_eq_true_eq, wordCount]
  norm_num

theorem sign_of_numeral (h : Numeral cs z) (hz : z ≠ 0) : (sign cs).1 = decide (z < 0) := by
  have hsign := h.sign_spec.2
  cases hneg : (sign cs).1 with
  | true =>
    simp only [hneg, if_true] at hsign
    exact (decide_eq_true (by omega)).symm
  | false =>
    simp only [hneg, Bool.false_eq_true, if_false] at hsign
    exact (decide_eq_false (by omega)).symm

theorem truncate_rounded (z : Int) :
    (Binary64.rounded (decide (z < 0)) z.natAbs).truncate = nearest z := by
  rw [Binary64.truncate_eq, Binary64.negative_rounded, Binary64.magnitude_rounded, nearest]
  by_cases hz : z < 0
  · rw [if_pos hz, if_pos (decide_eq_true hz)]
  · rw [if_neg hz, if_neg (by simpa using hz)]

/-- By way of a floating-point number a whole number is read as the number nearest to it. One too
large for that would not fit either. -/
theorem truncated?_of_numeral (h : Numeral cs z) (hz : Binary64.leadingBit ≤ z.natAbs) :
    truncated? cs = if fitsSigned (nearest z) then some (nearest z) else none := by
  have hne : z ≠ 0 := Int.natAbs_ne_zero.1 (Nat.ne_of_gt (Nat.lt_of_lt_of_le (by decide) hz))
  rw [truncated?, float?_of_numeral h hne, Binary64.ofRatio_whole hz, sign_of_numeral h hne]
  split
  · rw [Option.map_some, Option.filter_some, truncate_rounded]
  · next hlarge =>
    rw [if_neg]
    · rfl
    · have hexponent := Binary64.exponent_rounded_le (decide (z < 0)) z.natAbs
      have hlog : 64 ≤ z.natAbs.log2 := by
        rw [Binary64.greatestExponent] at hlarge
        rw [Binary64.excess] at hexponent
        omega
      have hnearest : 2 ^ 64 ≤ Binary64.nearest z.natAbs :=
        Binary64.two_pow_le_nearest (by decide)
          ((Nat.le_log2 (Int.natAbs_ne_zero.2 hne)).1 hlog)
      rw [fitsSigned_iff, nearest]
      split <;> omega

/-- What becomes of a whole number in turn: with a sign, without one, and rounded. -/
theorem integer_of_numeral (h : Numeral cs z) :
    integer cs =
      if -2 ^ 63 ≤ z ∧ z < 2 ^ 64 then .int z
      else if -2 ^ 63 ≤ nearest z ∧ nearest z < 2 ^ 63 then .int (nearest z)
      else .null := by
  rw [integer, signed?_of_numeral h]
  by_cases hsigned : fitsSigned z
  · have hbounds := fitsSigned_iff.1 hsigned
    rw [if_pos hsigned, if_pos ⟨hbounds.1, by omega⟩]
    rfl
  · have hout : ¬ (-2 ^ 63 ≤ z ∧ z < 2 ^ 63) := fun hfits => hsigned (fitsSigned_iff.2 hfits)
    have hne : z ≠ 0 := by omega
    rw [if_neg hsigned, unsigned?_of_numeral h hne]
    by_cases hunsigned : fitsUnsigned z
    · have hbounds := fitsUnsigned_iff.1 hunsigned
      rw [if_pos hunsigned, if_pos ⟨by omega, hbounds.2⟩]
      rfl
    · have hout' : ¬ (0 ≤ z ∧ z < 2 ^ 64) := fun hfits => hunsigned (fitsUnsigned_iff.2 hfits)
      have hlead : Binary64.leadingBit ≤ z.natAbs := by
        rw [Binary64.leadingBit]
        omega
      rw [if_neg hunsigned, truncated?_of_numeral h hlead]
      by_cases hnearest : fitsSigned (nearest z)
      · rw [if_pos hnearest, if_neg (c := -2 ^ 63 ≤ z ∧ z < 2 ^ 64) (by omega),
          if_pos (fitsSigned_iff.1 hnearest)]
        rfl
      · rw [if_neg hnearest, if_neg (c := -2 ^ 63 ≤ z ∧ z < 2 ^ 64) (by omega),
          if_neg fun hfits => hnearest (fitsSigned_iff.2 hfits)]
        rfl

/-- Half a gap below the least number with a sign, that number is still the nearest one. -/
theorem nearest_of_lt (hz : z < -2 ^ 63) (hgap : -2 ^ 63 - 1024 ≤ z) : nearest z = -2 ^ 63 := by
  have habs : z.natAbs = 2 ^ 63 + (-2 ^ 63 - z).toNat := by omega
  rw [nearest, if_pos (by omega), habs, Binary64.nearest_two_pow_add (by decide) (by omega)]
  rfl

/-- Whole numbers that 64 bits hold are read exactly. Of the others, those up to 1024 below the
least number with a sign are read as that number, since it is the nearest floating-point number;
all else is null. -/
theorem apply_int_of_numeral (h : Numeral (Text.trim text.toList) z) :
    (-2 ^ 63 ≤ z ∧ z ≤ 2 ^ 64 - 1 → int.apply text = .int z) ∧
    (-2 ^ 63 - 1024 ≤ z ∧ z < -2 ^ 63 → int.apply text = .int (-2 ^ 63)) ∧
    (z < -2 ^ 63 - 1024 ∨ 2 ^ 64 - 1 < z → int.apply text = .null) := by
  rw [apply, integer_of_numeral h]
  refine ⟨fun hz => ?_, fun hz => ?_, fun hz => ?_⟩
  · rw [if_pos ⟨hz.1, by omega⟩]
  · rw [if_neg (by omega), nearest_of_lt hz.2 hz.1, if_pos (by decide)]
  · rw [if_neg (by omega), if_neg]
    obtain hz | hz := hz
    · have hbelow : 2 ^ 63 < Binary64.nearest z.natAbs :=
        Binary64.two_pow_lt_nearest (by decide) (by omega)
      rw [nearest, if_pos (by omega)]
      omega
    · have habove : 2 ^ 64 ≤ Binary64.nearest z.natAbs :=
        Binary64.two_pow_le_nearest (by decide) (by omega)
      rw [nearest, if_neg (by omega)]
      omega

/-- The greatest number without a sign, with blanks around it and a plus. -/
theorem apply_int_of_numeral_greatest :
    Numeral (Text.trim "\t+18446744073709551615 ".toList) 18446744073709551615 ∧
      int.apply "\t+18446744073709551615 " = .int 18446744073709551615 := by
  have hdigits : AreDigits "18446744073709551615".toList := ⟨by decide, by cbv⟩
  have htrim : Text.trim "\t+18446744073709551615 ".toList =
      '+' :: "18446744073709551615".toList := by decide
  have hvalue : placeValue "18446744073709551615".toList = 18446744073709551615 := by
    cbv
  have hnumeral := Numeral.plus hdigits
  rw [← htrim, hvalue] at hnumeral
  exact ⟨hnumeral, (apply_int_of_numeral hnumeral).1 (by decide)⟩

/-- One below the least number with a sign is read as that number, although it is another one. -/
theorem exists_read_as_another :
    Numeral (Text.trim "-9223372036854775809".toList) (-9223372036854775809) ∧
      int.apply "-9223372036854775809" = .int (-9223372036854775808) := by
  have hdigits : AreDigits "9223372036854775809".toList := ⟨by decide, by cbv⟩
  have htrim : Text.trim "-9223372036854775809".toList = '-' :: "9223372036854775809".toList := by
    decide
  have hvalue : placeValue "9223372036854775809".toList = 9223372036854775809 := by
    cbv
  have hnumeral := Numeral.minus hdigits
  rw [← htrim, hvalue] at hnumeral
  refine ⟨hnumeral, ?_⟩
  rw [apply, integer_of_numeral hnumeral, nearest_of_lt (by decide) (by decide),
    if_neg (by decide), if_pos (by decide)]
  rfl

end Grok.Coercion
