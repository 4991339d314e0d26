import Mathlib
import Grok.Proofs.Number.Rounding
/-!
Quotients as binary floating-point numbers, and what the nearest one shows in front of its point.
Main statement: below 2⁵² that is the whole part of the quotient, or the next whole number if the
quotient reaches the middle of the last gap in front of it; from there on it is the quotient rounded
at the end of its first 53 bits.
-/
namespace Grok.Number

variable {num den m k : Nat}

theorem roundHalfEven_le_succ (num den : Nat) : roundHalfEven num den ≤ num / den + 1 := by
  dsimp only [roundHalfEven]
  split
  · exact Nat.le_succ _
  · split
    · exact Nat.le_refl _
    · exact Nat.add_le_add_left (Nat.le_of_lt_succ (Nat.mod_lt _ (by decide))) _

/-- Against an even number, a quotient is rounded to less if it is more than a half below it, and to
more if it is more than a half above it: from the two middles it goes to the even number. -/
theorem compare_roundHalfEven (hden : 0 < den) (hm : m % 2 = 0) :
    (roundHalfEven num den < m ↔ 2 * num + den < 2 * (den * m)) ∧
      (m < roundHalfEven num den ↔ 2 * (den * m) + den < 2 * num) := by
  have hr : num % den < den := Nat.mod_lt _ hden
  have hnum : num = den * (num / den) + num % den := (Nat.div_add_mod _ _).symm
  generalize num / den = q at hnum
  generalize num % den = r at hnum hr
  subst hnum
  have hbelow (a b c : Nat) : a ≤ b + c ↔ den * a ≤ den * b + den * c := by
    rw [← Nat.mul_add, Nat.mul_le_mul_left_iff hden]
  have habove (a b c : Nat) : a + c ≤ b ↔ den * a + den * c ≤ den * b := by
    rw [← Nat.mul_add, Nat.mul_le_mul_left_iff hden]
  have hqm := hbelow q m 0
  have hmq := hbelow m q 0
  have hmq' := hbelow m q 1
  have hqm' := habove q m 1
  have hqm'' := habove q m 2
  have hmq'' := habove m q 1
  rw [roundHalfEven_mul_add hr]
  split
  · omega
  · split
    · omega
    · omega

namespace Binary64

/-! ### The exponent of a quotient -/

theorem log2_le_add (hnum : num ≠ 0) (h : num < den * 2 ^ k) : num.log2 ≤ den.log2 + k := by
  have hlog : 2 ^ num.log2 < 2 ^ (den.log2 + 1 + k) := by
    calc
      2 ^ num.log2 ≤ num := Nat.log2_self_le hnum
      _ < den * 2 ^ k := h
      _ ≤ 2 ^ (den.log2 + 1) * 2 ^ k := Nat.mul_le_mul_right _ Nat.lt_log2_self.le
      _ = 2 ^ (den.log2 + 1 + k) := (pow_add _ _ _).symm
  have := (Nat.pow_lt_pow_iff_right (by decide)).1 hlog
  omega

theorem add_le_log2 (hden : den ≠ 0) (h : den * 2 ^ k ≤ 2 * num) :
    den.log2 + k ≤ num.log2 + 1 := by
  have hlog : 2 ^ (den.log2 + k) < 2 ^ (num.log2 + 1 + 1) := by
    calc
      2 ^ (den.log2 + k) = 2 ^ den.log2 * 2 ^ k := pow_add _ _ _
      _ ≤ den * 2 ^ k := Nat.mul_le_mul_right _ (Nat.log2_self_le hden)
      _ ≤ 2 * num := h
      _ < 2 * 2 ^ (num.log2 + 1) := Nat.mul_lt_mul_of_pos_left Nat.lt_log2_self (by decide)
      _ = 2 ^ (num.log2 + 1 + 1) := (pow_succ' _ _).symm
  have := (Nat.pow_lt_pow_iff_right (by decide)).1 hlog
  omega

/-- The exponent is one that the numbers of bits suggest, or the next one. -/
theorem exists_exponentOf_eq (num den : Nat) :
    ∃ q : Int, q = max ((num.log2 : Int) - den.log2 - 53) (-1074) ∧ exponentOf num den =
      if den * twoPow (53 + q) ≤ num * twoPow (-(53 + q)) then q + 1 else q :=
  ⟨_, rfl, rfl⟩

theorem exponentOf_le (hnum : num ≠ 0) (h : num < den * 2 ^ k) :
    exponentOf num den ≤ k - 53 := by
  have hlog := log2_le_add hnum h
  obtain ⟨q, hq, hexponent⟩ := exists_exponentOf_eq num den
  rw [hexponent]
  split
  · next hreach =>
    obtain hlog | hlog := Nat.eq_or_lt_of_le hlog
    · have hbits : 53 + q = (k : Int) := by omega
      rw [hbits, twoPow_natCast, twoPow_neg_natCast, Nat.mul_one] at hreach
      exact absurd hreach (Nat.not_le.2 h)
    · omega
  · omega

theorem exponentOf_eq (hnum : num ≠ 0) (hden : den ≠ 0) (h : num < den * 2 ^ k)
    (h' : den * 2 ^ k ≤ 2 * num) : exponentOf num den = k - 53 := by
  have hlog := log2_le_add hnum h
  have hlog' := add_le_log2 hden h'
  refine Int.le_antisymm (exponentOf_le hnum h) ?_
  obtain ⟨q, hq, hexponent⟩ := exists_exponentOf_eq num den
  rw [hexponent]
  split
  · omega
  · next hreach =>
    obtain hlog | hlog := Nat.eq_or_lt_of_le hlog
    · omega
    · -- The quotient has one bit less than its parts suggest, so the greater exponent is taken.
      refine absurd ?_ hreach
      have hbits : 53 + q = (k : Int) - 1 := by omega
      rw [hbits]
      cases k with
      | zero => simpa [twoPow, Nat.mul_comm] using h'
      | succ k =>
        rw [Int.natCast_succ, Int.add_sub_cancel, twoPow_natCast, twoPow_neg_natCast]
        rw [pow_succ, ← Nat.mul_assoc] at h'
        omega

/-! ### What stands in front of the point -/

/-- A quotient rounded at the end of its first 53 bits, if it has as many in front of the point. -/
def nearestQuotient (num den : Nat) : Nat :=
  roundHalfEven num (den * 2 ^ excess (num / den)) * 2 ^ excess (num / den)

theorem nearest_eq (n : Nat) : nearest n = nearestQuotient n 1 := by
  rw [nearest, nearestQuotient, Nat.div_one, Nat.one_mul]

/-- The quotient reaches the middle of the last gap in front of the next whole number. -/
def ReachesNext (num den : Nat) : Prop :=
  2 ^ 54 * (den - num % den) ≤ den * 2 ^ (num / den).size

instance (num den : Nat) : Decidable (ReachesNext num den) := inferInstanceAs (Decidable (_ ≤ _))

/-- What the number nearest to a quotient shows in front of its point. -/
def wholePart (num den : Nat) : Nat :=
  if leadingBit ≤ num / den then nearestQuotient num den
  else if ReachesNext num den then num / den + 1
  else num / den

variable {negative : Bool} {j n : Nat}

theorem magnitude_neg_natCast (negative : Bool) (m j : Nat) :
    magnitude ⟨negative, m, -(j : Int)⟩ = m / 2 ^ j := by
  rw [magnitude, Int.neg_neg, twoPow_natCast, twoPow_neg_natCast, Nat.mul_one]

/-- A mantissa of 54 bits is the same number as one of 53 bits at the next exponent. -/
theorem magnitude_carry (negative : Bool) (q : Int) :
    magnitude ⟨negative, leadingBit, q + 1⟩ = magnitude ⟨negative, 2 * leadingBit, q⟩ := by
  cases q with
  | ofNat k =>
    rw [Int.ofNat_eq_natCast, ← Int.natCast_succ, magnitude_natCast, magnitude_natCast, pow_succ]
    ring
  | negSucc k =>
    have hsucc : Int.negSucc k + 1 = -(k : Int) := by omega
    have hneg : Int.negSucc k = -((k + 1 : Nat) : Int) := rfl
    rw [hsucc, hneg, magnitude_neg_natCast, magnitude_neg_natCast, pow_succ',
      Nat.mul_div_mul_left _ _ (by decide)]

/-- The number nearest to a quotient, unless it is too large, has the rounded quotient for a
mantissa, or the first of 53 bits where that has 54. -/
theorem exists_ofRatio_eq (hnum : num ≠ 0) (negative : Bool) (den : Nat) {q : Int}
    (hq : exponentOf num den = q) :
    ∃ x : Binary64, x.negative = negative ∧ x.exponent ≤ q + 1 ∧
      x.magnitude = magnitude
        ⟨negative, roundHalfEven (num * twoPow (-q)) (den * twoPow q), q⟩ ∧
      ofRatio negative num den = if x.exponent ≤ greatestExponent then some x else none := by
  subst hq
  refine ⟨_, ?_, ?_, ?_, by rw [ofRatio, if_neg hnum]⟩
  · split <;> rfl
  · split
    · exact Int.le_refl _
    · exact Int.le_add_of_nonneg_right (by decide)
  · split
    · next hcarry => rw [hcarry, magnitude_carry]
    · rfl

/-- A quotient rounded behind its point, at least one bit behind it, keeps its whole part unless it
reaches the middle of the last gap. -/
theorem roundHalfEven_shift (hden : 0 < den) (hj : 1 ≤ j) :
    roundHalfEven (num * 2 ^ j) den / 2 ^ j =
      if 2 ^ (j + 1) * (den - num % den) ≤ den then num / den + 1 else num / den := by
  have hpow : 0 < 2 ^ j := by positivity
  have hr : num % den < den := Nat.mod_lt _ hden
  have hnum : den * (num / den) + num % den = num := Nat.div_add_mod _ _
  generalize num / den = w at hnum ⊢
  generalize num % den = r at hnum hr ⊢
  obtain ⟨c, rfl⟩ := Nat.exists_eq_add_of_lt hr
  have hnext : num + (c + 1) = (r + c + 1) * (w + 1) := by
    rw [← hnum]
    ring
  have hlow : w * 2 ^ j ≤ roundHalfEven (num * 2 ^ j) (r + c + 1) := by
    refine le_trans ((Nat.le_div_iff_mul_le hden).2 ?_) (div_le_roundHalfEven _ _)
    calc
      w * 2 ^ j * (r + c + 1) = (r + c + 1) * w * 2 ^ j := by ring
      _ ≤ num * 2 ^ j := Nat.mul_le_mul_right _ (by omega)
  have hhigh : roundHalfEven (num * 2 ^ j) (r + c + 1) ≤ (w + 1) * 2 ^ j := by
    refine le_trans (roundHalfEven_le_succ _ _) ((Nat.div_lt_iff_lt_mul hden).2 ?_)
    calc
      num * 2 ^ j < (num + (c + 1)) * 2 ^ j := Nat.mul_lt_mul_of_pos_right (by omega) hpow
      _ = (w + 1) * 2 ^ j * (r + c + 1) := by
        rw [hnext]
        ring
  have heven : (w + 1) * 2 ^ j % 2 = 0 :=
    Nat.mod_eq_zero_of_dvd ((dvd_pow_self 2 (by omega)).mul_left _)
  have hreach : roundHalfEven (num * 2 ^ j) (r + c + 1) < (w + 1) * 2 ^ j ↔
      ¬ 2 ^ (j + 1) * (c + 1) ≤ r + c + 1 := by
    have hsum : 2 * ((r + c + 1) * ((w + 1) * 2 ^ j)) =
        2 * (num * 2 ^ j) + 2 ^ (j + 1) * (c + 1) := by
      rw [← Nat.mul_assoc (r + c + 1), ← hnext]
      ring
    rw [(compare_roundHalfEven hden heven).1, hsum]
    omega
  have hc : r + c + 1 - r = c + 1 := by omega
  rw [hc]
  split
  · next h =>
    rw [Nat.le_antisymm hhigh (Nat.not_lt.1 fun hlt => hreach.1 hlt h), Nat.mul_div_cancel _ hpow]
  · next h => exact Nat.div_eq_of_lt_le hlow (hreach.2 h)

/-- For a quotient with fewer than 53 bits in front of the point, the middle of the last gap is
where rounding at its exponent starts to reach the next whole number. -/
theorem reachesNext_iff (hnum : num ≠ 0) (hden : 0 < den) (h : num / den < leadingBit)
    (hj : exponentOf num den = -(j : Int)) :
    2 ^ (j + 1) * (den - num % den) ≤ den ↔ ReachesNext num den := by
  have hsize : (num / den).size ≤ 52 := Nat.size_le.2 h
  rw [ReachesNext]
  by_cases hbits : den * 2 ^ (num / den).size ≤ 2 * num
  · have hupper : num < den * 2 ^ (num / den).size := by
      rw [Nat.mul_comm, ← Nat.div_lt_iff_lt_mul hden]
      exact Nat.lt_size_self _
    have hexponent := exponentOf_eq hnum hden.ne' hupper hbits
    have hgap : 54 = (num / den).size + (j + 1) := by omega
    rw [hgap, pow_add 2 (num / den).size, Nat.mul_assoc, Nat.mul_comm den,
      Nat.mul_le_mul_left_iff (by positivity)]
  · -- The quotient is less than a half, far from the next whole number.
    have hzero : num / den = 0 := by
      by_contra hne
      obtain ⟨i, hi⟩ := Nat.exists_eq_succ_of_ne_zero (mt Nat.size_eq_zero.1 hne)
      have hlow : 2 ^ i ≤ num / den := Nat.lt_size.1 (hi ▸ Nat.lt_succ_self i)
      refine hbits ?_
      calc
        den * 2 ^ (num / den).size = 2 * (2 ^ i * den) := by
          rw [hi, pow_succ]
          ring
        _ ≤ 2 * num := Nat.mul_le_mul_left _ ((Nat.le_div_iff_mul_le hden).1 hlow)
    rw [hzero, Nat.size_zero, pow_zero, Nat.mul_one] at hbits
    have hfar (i : Nat) (hi : 1 ≤ i) : ¬ 2 ^ i * (den - num) ≤ den := by
      have htwo : 2 ≤ 2 ^ i := Nat.le_self_pow (by omega) 2
      have := Nat.mul_le_mul_right (den - num) htwo
      omega
    rw [hzero, Nat.size_zero, pow_zero, Nat.mul_one, Nat.mod_eq_of_lt (by omega)]
    exact iff_of_false (hfar _ (by omega)) (hfar _ (by decide))

/-- Below 2⁵² there is always a nearest number, and it shows the whole part of the quotient or the
next whole number. -/
theorem exists_ofRatio_of_lt (hnum : num ≠ 0) (hden : 0 < den) (h : num / den < leadingBit)
    (negative : Bool) : ∃ x : Binary64, ofRatio negative num den = some x ∧
      x.negative = negative ∧ x.magnitude = wholePart num den := by
  have hupper : num < den * 2 ^ 52 := by
    rw [Nat.mul_comm, ← Nat.div_lt_iff_lt_mul hden]
    exact h
  have hexponent := exponentOf_le hnum hupper
  obtain ⟨j, hj⟩ : ∃ j : Nat, exponentOf num den = -(j : Int) :=
    ⟨(exponentOf num den).natAbs, by omega⟩
  obtain ⟨x, hnegative, hx, hmagnitude, hratio⟩ := exists_ofRatio_eq hnum negative den hj
  refine ⟨x, ?_, hnegative, ?_⟩
  · rw [hratio, if_pos]
    rw [greatestExponent]
    omega
  · rw [hmagnitude, Int.neg_neg, twoPow_natCast, twoPow_neg_natCast, Nat.mul_one,
      magnitude_neg_natCast, roundHalfEven_shift hden (by omega), wholePart,
      if_neg (Nat.not_le.2 h)]
    exact if_congr (reachesNext_iff hnum hden h hj) rfl rfl

theorem exponentOf_of_le (hden : 0 < den) (h : leadingBit ≤ num / den) :
    exponentOf num den = excess (num / den) := by
  have hw : num / den ≠ 0 := Nat.ne_of_gt (Nat.lt_of_lt_of_le (by decide) h)
  have hnum : num ≠ 0 := fun h0 => hw (by rw [h0, Nat.zero_div])
  have hlog : 52 ≤ (num / den).log2 := (Nat.le_log2 hw).2 h
  have hupper : num < den * 2 ^ ((num / den).log2 + 1) := by
    rw [Nat.mul_comm, ← Nat.div_lt_iff_lt_mul hden]
    exact Nat.lt_log2_self
  have hlower : den * 2 ^ ((num / den).log2 + 1) ≤ 2 * num := by
    calc
      den * 2 ^ ((num / den).log2 + 1) = 2 * (2 ^ (num / den).log2 * den) := by
        rw [pow_succ]
        ring
      _ ≤ 2 * num :=
        Nat.mul_le_mul_left _ ((Nat.le_div_iff_mul_le hden).1 (Nat.log2_self_le hw))
  rw [exponentOf_eq hnum hden.ne' hupper hlower, excess]
  omega

/-- A quotient from a power of two on is not rounded below it. -/
theorem two_pow_le_nearestQuotient (hk : 52 ≤ k) (h : 2 ^ k ≤ num / den) :
    2 ^ k ≤ nearestQuotient num den := by
  have hw : num / den ≠ 0 := Nat.ne_of_gt (Nat.lt_of_lt_of_le (by positivity) h)
  have hlead : leadingBit ≤ num / den := le_trans (Nat.pow_le_pow_right (n := 2) (by decide) hk) h
  have hlog : k ≤ (num / den).log2 := (Nat.le_log2 hw).2 h
  have hquotient : 2 ^ 52 ≤ num / (den * 2 ^ excess (num / den)) := by
    rw [← Nat.div_div_eq_div_mul, Nat.le_div_iff_mul_le (by positivity)]
    exact two_pow_excess_le hlead
  calc
    2 ^ k ≤ 2 ^ (52 + excess (num / den)) :=
      Nat.pow_le_pow_right (by decide) (by rw [excess]; omega)
    _ = 2 ^ 52 * 2 ^ excess (num / den) := pow_add _ _ _
    _ ≤ nearestQuotient num den :=
      Nat.mul_le_mul_right _ (hquotient.trans (div_le_roundHalfEven _ _))

theorem wholePart_of_le (h : leadingBit ≤ num / den) :
    wholePart num den = nearestQuotient num den := by
  rw [wholePart, if_pos h]

theorem two_pow_le_wholePart (hk : 52 ≤ k) (h : 2 ^ k ≤ num / den) :
    2 ^ k ≤ wholePart num den := by
  rw [wholePart_of_le (le_trans (Nat.pow_le_pow_right (n := 2) (by decide) hk) h)]
  exact two_pow_le_nearestQuotient hk h

/-- From 2⁵² on a quotient is rounded at the end of its first 53 bits, unless it is too large. -/
theorem exists_ofRatio_of_le (hden : 0 < den) (h : leadingBit ≤ num / den) (negative : Bool) :
    (∃ x : Binary64, ofRatio negative num den = some x ∧ x.negative = negative ∧
      x.magnitude = wholePart num den) ∨
    (ofRatio negative num den = none ∧ 2 ^ 64 ≤ wholePart num den) := by
  have hw : num / den ≠ 0 := Nat.ne_of_gt (Nat.lt_of_lt_of_le (by decide) h)
  have hnum : num ≠ 0 := fun h0 => hw (by rw [h0, Nat.zero_div])
  obtain ⟨x, hnegative, hx, hmagnitude, hratio⟩ :=
    exists_ofRatio_eq hnum negative den (exponentOf_of_le hden h)
  rw [hratio]
  split
  · refine .inl ⟨x, rfl, hnegative, ?_⟩
    rw [hmagnitude, twoPow_natCast, twoPow_neg_natCast, Nat.mul_one, magnitude_natCast,
      wholePart_of_le h, nearestQuotient]
  · next hlarge =>
    refine .inr ⟨rfl, two_pow_le_wholePart (by decide) ((Nat.le_log2 hw).1 ?_)⟩
    rw [greatestExponent] at hlarge
    rw [excess] at hx
    omega

/-! ### Where the whole part stays -/

theorem wholePart_eq_iff_of_lt (h : num / den < leadingBit) :
    wholePart num den = num / den ↔ ¬ ReachesNext num den := by
  rw [wholePart, if_neg (Nat.not_le.2 h)]
  split
  · next hreach => exact iff_of_false (Nat.succ_ne_self _) (fun hstay => hstay hreach)
  · next hstay => exact iff_of_true rfl hstay

/-- With 53 bits in front of the point, a quotient is rounded at the point. -/
theorem wholePart_eq_iff_of_bits (h : 2 ^ 52 ≤ num / den) (h' : num / den < 2 ^ 53) :
    wholePart num den = num / den ↔
      2 * (num % den) < den ∨ 2 * (num % den) = den ∧ num / den % 2 = 0 := by
  have hexcess : excess (num / den) = 0 := excess_eq h h'
  rw [wholePart_of_le h, nearestQuotient, hexcess, pow_zero, Nat.mul_one, Nat.mul_one,
    roundHalfEven]
  split
  · omega
  · split <;> omega

/-- With more bits in front of the point, only a multiple of the gap stays. -/
theorem wholePart_eq_iff_of_le (hden : 0 < den) (h : 2 ^ 53 ≤ num / den) :
    wholePart num den = num / den ↔ 2 ^ excess (num / den) ∣ num / den := by
  have hlead : leadingBit ≤ num / den := le_trans (by decide) h
  have hne : num / den ≠ 0 := Nat.ne_of_gt (Nat.lt_of_lt_of_le (by decide) h)
  have hbits : 1 ≤ excess (num / den) := by
    have hlog : 53 ≤ (num / den).log2 := (Nat.le_log2 hne).2 h
    rw [excess]
    omega
  have hr : num % den < den := Nat.mod_lt _ hden
  have hnum : den * (num / den) + num % den = num := Nat.div_add_mod _ _
  rw [wholePart_of_le hlead, nearestQuotient]
  generalize num / den = w at hnum hbits ⊢
  constructor
  · exact fun hstay => Dvd.intro_left _ hstay
  · rintro ⟨c, hc⟩
    have htwo : 2 ≤ 2 ^ excess w := Nat.le_self_pow (by omega) 2
    have hhalf : den * 2 ≤ den * 2 ^ excess w := Nat.mul_le_mul_left _ htwo
    have hround : roundHalfEven num (den * 2 ^ excess w) = c := by
      have hmultiple : num = den * 2 ^ excess w * c + num % den := by
        rw [Nat.mul_assoc, ← hc, hnum]
      rw [hmultiple, roundHalfEven_mul_add (by omega), if_pos (by omega)]
    rw [hround, Nat.mul_comm, ← hc]

/-- Above a power of two, a quotient is rounded down to it as far as half a gap. -/
theorem nearestQuotient_le_iff (hden : 0 < den) (hk : 53 ≤ k) (h : 2 ^ k ≤ num / den) :
    nearestQuotient num den ≤ 2 ^ k ↔ num ≤ den * (2 ^ k + 2 ^ (k - 53)) := by
  obtain ⟨hpow, hgap⟩ := two_pow_eq_gap hk
  obtain hn | hn := Nat.lt_or_ge (num / den) (2 ^ (k + 1))
  · have hpos : 0 < 2 ^ (k - 52) := by positivity
    have heven : 2 ^ 52 % 2 = 0 := by norm_num
    have hround : 2 ^ 52 < roundHalfEven num (den * 2 ^ (k - 52)) ↔
        2 * (den * 2 ^ (k - 52) * 2 ^ 52) + den * 2 ^ (k - 52) < 2 * num :=
      (compare_roundHalfEven (Nat.mul_pos hden hpos) heven).2
    have hmiddle : 2 * (den * (2 ^ k + 2 ^ (k - 53))) =
        2 * (den * 2 ^ (k - 52) * 2 ^ 52) + den * 2 ^ (k - 52) := by
      rw [hpow, hgap]
      ring
    rw [nearestQuotient, excess_eq h hn]
    conv_lhs => rw [hpow, Nat.mul_comm (2 ^ (k - 52)), Nat.mul_le_mul_right_iff hpos]
    rw [← Nat.not_lt, hround, ← hmiddle, Nat.not_lt, Nat.mul_le_mul_left_iff (by decide)]
  · refine iff_of_false (Nat.not_le.2 ?_) (Nat.not_le.2 ?_)
    · exact lt_of_lt_of_le (Nat.pow_lt_pow_right (by decide) (Nat.lt_succ_self k))
        (two_pow_le_nearestQuotient (by omega) hn)
    · have hsmall : 2 ^ (k - 53) < 2 ^ k := Nat.pow_lt_pow_right (by decide) (by omega)
      calc
        den * (2 ^ k + 2 ^ (k - 53)) < den * 2 ^ (k + 1) := by
          rw [pow_succ, Nat.mul_two]
          exact Nat.mul_lt_mul_of_pos_left (Nat.add_lt_add_left hsmall _) hden
        _ = 2 ^ (k + 1) * den := Nat.mul_comm _ _
        _ ≤ num := (Nat.le_div_iff_mul_le hden).1 hn

/-! ### Whole numbers -/

theorem ofRatio_whole (h : leadingBit ≤ n) :
    ofRatio negative n 1 =
      if (rounded negative n).exponent ≤ greatestExponent then some (rounded negative n)
      else none := by
  have hn : n ≠ 0 := Nat.ne_of_gt (Nat.lt_of_lt_of_le (by decide) h)
  have hexponent : exponentOf n 1 = excess (n / 1) :=
    exponentOf_of_le Nat.one_pos (by rwa [Nat.div_one])
  rw [Nat.div_one] at hexponent
  rw [ofRatio, if_neg hn, hexponent]
  dsimp only
  rw [twoPow_natCast, twoPow_neg_natCast, Nat.mul_one, Nat.one_mul]
  rfl

/-- Rounding keeps a number at or above a power of two. -/
theorem two_pow_le_nearest (hk : 52 ≤ k) (h : 2 ^ k ≤ n) : 2 ^ k ≤ nearest n := by
  rw [nearest_eq]
  exact two_pow_le_nearestQuotient hk (by rwa [Nat.div_one])

theorem nearest_le_iff (hk : 53 ≤ k) (h : 2 ^ k ≤ n) :
    nearest n ≤ 2 ^ k ↔ n ≤ 2 ^ k + 2 ^ (k - 53) := by
  rw [nearest_eq, nearestQuotient_le_iff Nat.one_pos hk (by rwa [Nat.div_one]), Nat.one_mul]

/-- What is at most half a gap above a power of two is rounded down to it: its mantissa is even. -/
theorem nearest_two_pow_add {r : Nat} (hk : 53 ≤ k) (hr : r ≤ 2 ^ (k - 53)) :
    nearest (2 ^ k + r) = 2 ^ k := by
  have hle : 2 ^ k ≤ 2 ^ k + r := Nat.le_add_right _ _
  exact Nat.le_antisymm ((nearest_le_iff hk hle).2 (Nat.add_le_add_left hr _))
    (two_pow_le_nearest (by omega) hle)

/-- What is more than half a gap above a power of two is not rounded down to it. -/
theorem two_pow_lt_nearest (hk : 53 ≤ k) (h : 2 ^ k + 2 ^ (k - 53) < n) : 2 ^ k < nearest n := by
  have hle : 2 ^ k ≤ n := le_trans (Nat.le_add_right _ _) h.le
  exact Nat.not_le.1 fun hnearest => Nat.not_le.2 h ((nearest_le_iff hk hle).1 hnearest)

/-! ### Decimals -/

/-- Below a bound, a quotient is below it together with its whole part, except right above it. -/
theorem le_mul_iff (hden : 0 < den) :
    (num ≤ den * m ↔ num / den ≤ m) ↔ (num / den = m → num % den = 0) := by
  have hr : num % den < den := Nat.mod_lt _ hden
  have hnum : num = den * (num / den) + num % den := (Nat.div_add_mod _ _).symm
  generalize num / den = w at hnum ⊢
  generalize num % den = r at hnum hr ⊢
  subst hnum
  obtain h | rfl | h := Nat.lt_trichotomy w m
  · have hmul : den * w + den ≤ den * m := Nat.mul_le_mul_left den h
    omega
  · omega
  · have hmul : den * m + den ≤ den * w := Nat.mul_le_mul_left den h
    omega

theorem wholePart_eq_zero (h : 2 * num < den) : wholePart num den = 0 := by
  have hzero : num / den = 0 := Nat.div_eq_of_lt (by omega)
  have hlow : num / den < leadingBit := hzero ▸ by decide
  have hstay : ¬ ReachesNext num den := by
    rw [ReachesNext, hzero, Nat.size_zero, Nat.mod_eq_of_lt (by omega)]
    omega
  rw [(wholePart_eq_iff_of_lt hlow).2 hstay, hzero]

/-- The number nearest to a decimal with digits behind its point, if it is not far too large, shows
the whole part of a quotient by a power of ten. -/
theorem exists_ofDecimal (negative : Bool) (n k : Nat) :
    (∃ x : Binary64, ofDecimal ⟨negative, n, -(k : Int)⟩ = some x ∧ x.negative = negative ∧
      x.magnitude = wholePart n (10 ^ k)) ∨
    (ofDecimal ⟨negative, n, -(k : Int)⟩ = none ∧ 2 ^ 64 ≤ wholePart n (10 ^ k)) := by
  have hzero (h : 2 * n < 10 ^ k) :
      magnitude ⟨negative, 0, leastExponent⟩ = wholePart n (10 ^ k) := by
    rw [wholePart_eq_zero h, magnitude, Nat.zero_mul, Nat.zero_div]
  have hden : 0 < 10 ^ k := by positivity
  have hratio : ofRatio negative (n * tenPow (-(k : Int))) (tenPow (- -(k : Int))) =
      ofRatio negative n (10 ^ k) := by
    rw [Int.neg_neg, tenPow, tenPow, Int.toNat_of_nonpos (by omega), Int.toNat_natCast, Nat.pow_eq,
      Nat.pow_eq, Nat.pow_zero, Nat.mul_one]
  rw [ofDecimal]
  dsimp only
  rw [hratio]
  split
  · next hn => exact .inl ⟨_, rfl, rfl, hzero (by omega)⟩
  next hn =>
  rw [if_neg (by omega)]
  split
  · next hsmall =>
    refine .inl ⟨_, rfl, rfl, hzero ?_⟩
    calc
      2 * n < 2 * 2 ^ (n.log2 + 1) := Nat.mul_lt_mul_of_pos_left Nat.lt_log2_self (by decide)
      _ = 2 ^ (n.log2 + 1 + 1) := (pow_succ' _ _).symm
      _ ≤ 2 ^ k := Nat.pow_le_pow_right (by decide) (by omega)
      _ ≤ 10 ^ k := Nat.pow_le_pow_left (by decide) k
  · obtain hlow | hhigh := Nat.lt_or_ge (n / 10 ^ k) leadingBit
    · exact .inl (exists_ofRatio_of_lt hn hden hlow negative)
    · exact exists_ofRatio_of_le hden hhigh negative

end Binary64

end Grok.Number
