import Mathlib
import Grok.Proofs.Coercion.Integer
/-!
Whole numbers from captured text with a point and digits behind it. Main statement: such a text is
read as the whole part of the floating-point number that is nearest to it, and that is what stands
in front of the point exactly as long as the digits behind the point are harmless: they stay below
the middle of the last gap in front of the next whole number, and the number in front of the point
is not so large that it is rounded itself.
-/
namespace Grok.Number

/-- A number with a sign. -/
def signed (negative : Bool) (n : Nat) : Int := if negative then -(n : Int) else n

/-- The whole number in front of a point, zero if there are no digits. -/
def front (cs : List Char) : Int := signed (sign cs).1 (placeValue (sign cs).2)

variable {cs ds f : List Char} {z : Int} {c : Char}

/-! ### Digits behind a point -/

theorem placeValue_append (ds f : List Char) :
    placeValue (ds ++ f) = placeValue ds * 10 ^ f.length + placeValue f := by
  rw [placeValue, List.reverse_append, List.map_append, Nat.ofDigits_append, List.length_map,
    List.length_reverse, Nat.add_comm, Nat.mul_comm]
  rfl

theorem toNat_of_isDigit (h : c.isDigit) : 48 ≤ c.toNat ∧ c.toNat ≤ 57 := by
  simp only [Char.isDigit, Bool.and_eq_true, decide_eq_true_eq, UInt32.le_iff_toNat_le] at h
  exact h

theorem placeValue_lt (hf : f.all Char.isDigit) : placeValue f < 10 ^ f.length := by
  have hdigits : ∀ d ∈ f.reverse.map (fun c => c.toNat - '0'.toNat), d < 10 := by
    intro d hd
    obtain ⟨c, hc, rfl⟩ := List.mem_map.1 hd
    have hzero : '0'.toNat = 48 := rfl
    have := toNat_of_isDigit (List.all_eq_true.1 hf c (List.mem_reverse.1 hc))
    omega
  simpa [placeValue] using Nat.ofDigits_lt_base_pow_length (by decide) hdigits

theorem sign_of_head (h : ∀ c ∈ cs.head?, c ≠ '-' ∧ c ≠ '+') : sign cs = (false, cs) := by
  unfold sign
  split
  · exact absurd rfl (h _ rfl).1
  · exact absurd rfl (h _ rfl).2
  · rfl

theorem sign_cases (cs : List Char) :
    (∃ ds, cs = '-' :: ds) ∨ (∃ ds, cs = '+' :: ds) ∨ ∀ c ∈ cs.head?, c ≠ '-' ∧ c ≠ '+' := by
  cases cs with
  | nil => exact .inr (.inr nofun)
  | cons c cs =>
    by_cases hminus : c = '-'
    · exact .inl ⟨cs, by rw [hminus]⟩
    · by_cases hplus : c = '+'
      · exact .inr (.inl ⟨cs, by rw [hplus]⟩)
      · exact .inr (.inr (by simp [hminus, hplus]))

theorem sign_append_point (cs f : List Char) :
    sign (cs ++ '.' :: f) = ((sign cs).1, (sign cs).2 ++ '.' :: f) := by
  obtain ⟨ds, rfl⟩ | ⟨ds, rfl⟩ | h := sign_cases cs
  · rfl
  · rfl
  · rw [sign_of_head h, sign_of_head]
    cases cs with
    | nil => simp
    | cons c cs => exact h

theorem mem_sign (h : c ∈ cs) : c = '-' ∨ c = '+' ∨ c ∈ (sign cs).2 := by
  obtain ⟨ds, rfl⟩ | ⟨ds, rfl⟩ | hhead := sign_cases cs
  · exact (List.mem_cons.1 h).imp_right .inr
  · exact .inr (List.mem_cons.1 h)
  · rw [sign_of_head hhead]
    exact .inr (.inr h)

theorem numeral_front (hds : AreDigits (sign cs).2) : Numeral cs (front cs) := by
  obtain ⟨ds, rfl⟩ | ⟨ds, rfl⟩ | h := sign_cases cs
  · exact .minus hds
  · exact .plus hds
  · rw [front, sign_of_head h] at *
    exact .unsigned hds

theorem integer?_point (cs f : List Char) : integer? (cs ++ '.' :: f) = none := by
  have hpoint : ((sign cs).2 ++ '.' :: f).all Char.isDigit = false := by
    rw [List.all_append, List.all_cons, show Char.isDigit '.' = false from rfl, Bool.false_and,
      Bool.and_false]
  rw [integer?, sign_append_point]
  simp [hpoint]

theorem ofText?_point (hds : (sign cs).2.all Char.isDigit) (hf : AreDigits f) :
    Decimal.ofText? (cs ++ '.' :: f) =
      some ⟨(sign cs).1, placeValue ((sign cs).2 ++ f), -(f.length : Int)⟩ := by
  have hds := List.all_eq_true.1 hds
  have hall := List.all_eq_true.1 hf.2
  have hwhole : spanDigits ((sign cs).2 ++ '.' :: f) = ((sign cs).2, '.' :: f) := by
    rw [spanDigits, List.takeWhile_append_of_pos hds, List.dropWhile_append_of_pos hds]
    simp
  have hfraction : spanDigits f = (f, []) := by
    rw [spanDigits, List.takeWhile_eq_self_iff.2 hall, List.dropWhile_eq_nil_iff.2 hall]
  rw [Decimal.ofText?, sign_append_point]
  simp [hwhole, hfraction, hf.1, exponent?, digitsValue_eq]

end Grok.Number

namespace Grok.Text

variable {cs : List Char}

/-- A text without blanks is not trimmed. -/
theorem trim_eq_self (h : ∀ c ∈ cs, isBlank c = false) : trim cs = cs := by
  have hdrop (cs : List Char) (h : ∀ c ∈ cs, isBlank c = false) : cs.dropWhile isBlank = cs := by
    cases cs with
    | nil => rfl
    | cons c cs => simp [h c (.head _)]
  rw [trim, trimEnd, trimStart, hdrop cs h, hdrop _ fun c hc => h c (List.mem_reverse.1 hc),
    List.reverse_reverse]

end Grok.Text

namespace Grok.Coercion

open Number

variable {cs f : List Char} {z : Int}

/-- What the floating-point number nearest to a decimal shows in front of its point. -/
def shown (cs f : List Char) : Int :=
  signed (sign cs).1 (Binary64.wholePart (placeValue ((sign cs).2 ++ f)) (10 ^ f.length))

/-- Signs, points and digits are no blanks. -/
theorem isBlank_of_mem {c : Char} (h : c = '-' ∨ c = '+' ∨ c = '.' ∨ c.isDigit) :
    Text.isBlank c = false := by
  obtain rfl | rfl | rfl | h := h
  · rfl
  · rfl
  · rfl
  · obtain ⟨hlow, hhigh⟩ := toNat_of_isDigit h
    simp only [Text.isBlank, Bool.or_eq_false_iff, Bool.and_eq_false_iff, decide_eq_false_iff_not,
      beq_eq_false_iff_ne]
    omega

theorem trim_front (hds : (sign cs).2.all Char.isDigit) : Text.trim cs = cs := by
  refine Text.trim_eq_self fun c hc => isBlank_of_mem ((mem_sign hc).imp_right (.imp_right ?_))
  exact fun hc => .inr (List.all_eq_true.1 hds c hc)

theorem trim_point (hds : (sign cs).2.all Char.isDigit) (hf : AreDigits f) :
    Text.trim (cs ++ '.' :: f) = cs ++ '.' :: f := by
  refine Text.trim_eq_self fun c hc => isBlank_of_mem ((mem_sign hc).imp_right (.imp_right ?_))
  rw [sign_append_point, List.mem_append, List.mem_cons]
  rintro (hc | hc | hc)
  · exact .inr (List.all_eq_true.1 hds c hc)
  · exact .inl hc
  · exact .inr (List.all_eq_true.1 hf.2 c hc)

/-! ### Text with a point -/

theorem truncated?_point (hds : (sign cs).2.all Char.isDigit) (hf : AreDigits f) :
    truncated? (cs ++ '.' :: f) = if fitsSigned (shown cs f) then some (shown cs f) else none := by
  rw [truncated?, float?, ofText?_point hds hf, Option.bind_some]
  obtain ⟨x, hx, hnegative, hmagnitude⟩ | ⟨hnone, hlarge⟩ :=
    Binary64.exists_ofDecimal (sign cs).1 (placeValue ((sign cs).2 ++ f)) f.length
  · have htruncate : x.truncate = shown cs f := by
      rw [Binary64.truncate_eq, hnegative, hmagnitude]
      rfl
    rw [hx, Option.map_some, Option.filter_some, htruncate]
  · rw [hnone, if_neg]
    · rfl
    · rw [fitsSigned_iff, shown, signed]
      split <;> omega

theorem integer_of_point (hds : (sign cs).2.all Char.isDigit) (hf : AreDigits f) :
    integer (cs ++ '.' :: f) =
      if -2 ^ 63 ≤ shown cs f ∧ shown cs f < 2 ^ 63 then .int (shown cs f) else .null := by
  have hsigned : signed? (cs ++ '.' :: f) = none := by
    rw [signed?, integer?_point]
    rfl
  have hunsigned : unsigned? (cs ++ '.' :: f) = none := by
    rw [unsigned?, integer?_point]
    exact ite_self _
  rw [integer, hsigned, hunsigned, truncated?_point hds hf]
  by_cases hfits : fitsSigned (shown cs f)
  · rw [if_pos hfits, if_pos (fitsSigned_iff.1 hfits)]
    rfl
  · rw [if_neg hfits, if_neg fun h => hfits (fitsSigned_iff.2 h)]
    rfl

/-! ### Text without one -/

/-- A sign alone is no number. -/
theorem integer_of_bare (h : (sign cs).2 = []) : integer cs = .null := by
  have hinteger : integer? cs = none := by
    rw [integer?]
    simp [h]
  have hdecimal : Decimal.ofText? cs = none := by
    rw [Decimal.ofText?]
    simp [h, spanDigits]
  have hsigned : signed? cs = none := by
    rw [signed?, hinteger]
    rfl
  have hunsigned : unsigned? cs = none := by
    rw [unsigned?, hinteger]
    exact ite_self _
  have htruncated : truncated? cs = none := by
    rw [truncated?, float?, hdecimal]
    rfl
  rw [integer, hsigned, hunsigned, htruncated]
  rfl

/-! ### One against the other -/

/-- A whole number stays as it is when it is rounded with digits behind its point. -/
def Stays (n : Nat) (f : List Char) : Prop :=
  -- The gaps are fractions, and the digits stay below the middle of the last one.
  if n < 2 ^ 52 then 10 ^ f.length * 2 ^ n.size < 2 ^ 54 * (10 ^ f.length - placeValue f)
  -- The gaps are ones, and a half goes to the even number.
  else if n < 2 ^ 53 then
    2 * placeValue f < 10 ^ f.length ∨ 2 * placeValue f = 10 ^ f.length ∧ n % 2 = 0
  else 2 ^ Binary64.excess n ∣ n

/-- With digits behind its point a number is read as it is without them. -/
def Harmless (z : Int) (f : List Char) : Prop :=
  -- Only without a point is a number held that is greater than all with a sign.
  if 2 ^ 63 ≤ z then 2 ^ 64 ≤ z
  -- Both are held as the least one, or neither is: they part half a gap below it.
  else if z < -2 ^ 63 then z = -2 ^ 63 - 1024 → placeValue f = 0
  else Stays z.natAbs f

/-- A whole number as a value, if 64 bits with a sign hold it. -/
def held (y : Int) : Value := if -2 ^ 63 ≤ y ∧ y < 2 ^ 63 then .int y else .null

theorem placeValue_div_mod (hf : AreDigits f) (ds : List Char) :
    placeValue (ds ++ f) / 10 ^ f.length = placeValue ds ∧
      placeValue (ds ++ f) % 10 ^ f.length = placeValue f := by
  have hlt := placeValue_lt hf.2
  have hpos : 0 < 10 ^ f.length := by positivity
  rw [placeValue_append, Nat.mul_comm, Nat.mul_add_div hpos, Nat.mul_add_mod,
    Nat.div_eq_of_lt hlt, Nat.mod_eq_of_lt hlt]
  exact ⟨Nat.add_zero _, rfl⟩

theorem wholePart_eq_iff (hf : AreDigits f) (ds : List Char) :
    Binary64.wholePart (placeValue (ds ++ f)) (10 ^ f.length) = placeValue ds ↔
      Stays (placeValue ds) f := by
  obtain ⟨hdiv, hmod⟩ := placeValue_div_mod hf ds
  rw [Stays, ← hdiv, ← hmod]
  split
  · next h => rw [Binary64.wholePart_eq_iff_of_lt h, Binary64.ReachesNext, Nat.not_le]
  · next h =>
    split
    · next h' => exact Binary64.wholePart_eq_iff_of_bits (Nat.not_lt.1 h) h'
    · next h' => exact Binary64.wholePart_eq_iff_of_le (by positivity) (Nat.not_lt.1 h')

theorem signed_inj {negative : Bool} {m n : Nat} :
    signed negative m = signed negative n ↔ m = n := by
  cases negative <;> simp [signed]

theorem sign_of_front_pos (h : 0 < front cs) :
    (sign cs).1 = false ∧ front cs = placeValue (sign cs).2 := by
  rw [front] at h ⊢
  cases hneg : (sign cs).1 with
  | false => exact ⟨rfl, rfl⟩
  | true =>
    rw [hneg, signed, if_pos rfl] at h
    omega

theorem sign_of_front_neg (h : front cs < 0) :
    (sign cs).1 = true ∧ front cs = -(placeValue (sign cs).2 : Int) := by
  rw [front] at h ⊢
  cases hneg : (sign cs).1 with
  | true => exact ⟨rfl, rfl⟩
  | false =>
    rw [hneg, signed, if_neg (by decide)] at h
    omega

/-- Above the greatest number with a sign, a number with digits behind its point is null. -/
theorem held_shown_of_le (hf : AreDigits f) (h : 2 ^ 63 ≤ front cs) :
    held (shown cs f) = .null := by
  have hpos : 0 < front cs := by omega
  obtain ⟨hsign, hfront⟩ := sign_of_front_pos hpos
  have hlow : 2 ^ 63 ≤ placeValue (sign cs).2 := by omega
  rw [← (placeValue_div_mod hf (sign cs).2).1] at hlow
  have hpart := Binary64.two_pow_le_wholePart (by decide) hlow
  rw [held, if_neg]
  rw [shown, hsign, signed, if_neg (by decide)]
  omega

/-- Of two numbers from the least one with a sign down, both are that number or neither is held. -/
theorem held_eq_held_iff {m n : Nat} (hm : 2 ^ 63 ≤ m) (hn : 2 ^ 63 ≤ n) :
    held (-(m : Int)) = held (-(n : Int)) ↔ (m ≤ 2 ^ 63 ↔ n ≤ 2 ^ 63) := by
  rw [held, held]
  split
  · split
    · rw [Value.int.injEq]
      omega
    · exact iff_of_false nofun (by omega)
  · split
    · exact iff_of_false nofun (by omega)
    · exact iff_of_true rfl (by omega)

/-- Below the least number with a sign, digits behind the point matter only where it is still the
nearest number and no longer would be. -/
theorem held_shown_of_lt (hf : AreDigits f) (h : front cs < -2 ^ 63) :
    held (shown cs f) = held (nearest (front cs)) ↔
      (front cs = -2 ^ 63 - 1024 → placeValue f = 0) := by
  have hneg : front cs < 0 := by omega
  obtain ⟨hsign, hfront⟩ := sign_of_front_neg hneg
  obtain ⟨hdiv, hmod⟩ := placeValue_div_mod hf (sign cs).2
  have hlow : 2 ^ 63 ≤ placeValue (sign cs).2 := by omega
  have habs : (front cs).natAbs = placeValue (sign cs).2 := by omega
  have hshown : shown cs f =
      -(Binary64.nearestQuotient (placeValue ((sign cs).2 ++ f)) (10 ^ f.length) : Int) := by
    rw [shown, hsign, signed, if_pos rfl, Binary64.wholePart_of_le]
    rw [hdiv]
    exact le_trans (by decide) hlow
  have hnearest : nearest (front cs) =
      -(Binary64.nearestQuotient (placeValue (sign cs).2) 1 : Int) := by
    rw [nearest, if_pos (by omega), habs, Binary64.nearest_eq]
  have hbound : front cs = -2 ^ 63 - 1024 ↔ placeValue (sign cs).2 = 2 ^ 63 + 2 ^ (63 - 53) := by
    omega
  have hone : 2 ^ 63 ≤ placeValue (sign cs).2 / 1 := by rwa [Nat.div_one]
  rw [hshown, hnearest, hbound]
  rw [← hdiv] at hlow
  rw [held_eq_held_iff (Binary64.two_pow_le_nearestQuotient (by decide) hlow)
      (Binary64.two_pow_le_nearestQuotient (by decide) hone),
    Binary64.nearestQuotient_le_iff (by positivity) (by decide) hlow,
    Binary64.nearestQuotient_le_iff (by decide) (by decide) hone, Nat.one_mul, ← hmod]
  conv_lhs => rhs; rw [← hdiv]
  conv_rhs => lhs; rw [← hdiv]
  exact Binary64.le_mul_iff (by positivity)

theorem held_shown_of_fits (hf : AreDigits f) (hlow : -2 ^ 63 ≤ front cs)
    (hhigh : front cs < 2 ^ 63) :
    held (shown cs f) = .int (front cs) ↔ Stays (front cs).natAbs f := by
  have habs : (front cs).natAbs = placeValue (sign cs).2 := by
    rw [front, signed]
    split <;> simp
  have hstays : shown cs f = front cs ↔ Stays (placeValue (sign cs).2) f :=
    signed_inj.trans (wholePart_eq_iff hf _)
  rw [habs, ← hstays, held]
  split
  · rw [Value.int.injEq]
  · exact iff_of_false nofun (by omega)

/-- A number above the greatest one with a sign is read as it is up to the greatest one without a
sign, and as null above that. -/
theorem integer_eq_null_iff (h : Numeral cs z) (hlow : 2 ^ 63 ≤ z) :
    integer cs = .null ↔ 2 ^ 64 ≤ z := by
  rw [integer_of_numeral h]
  obtain hz | hz := lt_or_ge z (2 ^ 64)
  · rw [if_pos ⟨by omega, hz⟩]
    exact iff_of_false nofun (by omega)
  · have hnearest : 2 ^ 63 ≤ Binary64.nearest z.toNat :=
      Binary64.two_pow_le_nearest (by decide) (by omega)
    have habs : z.natAbs = z.toNat := by omega
    have hround : nearest z = Binary64.nearest z.toNat := by
      rw [nearest, if_neg (by omega), habs]
    rw [if_neg (by omega), if_neg (by omega)]
    exact iff_of_true rfl hz

theorem held_shown_of_bare (hf : AreDigits f) (h : (sign cs).2 = []) :
    held (shown cs f) ≠ .null := by
  have hzero : placeValue ([] ++ f) / 10 ^ f.length = 0 := (placeValue_div_mod hf []).1
  have hpart : Binary64.wholePart (placeValue ([] ++ f)) (10 ^ f.length) ≤ 1 := by
    rw [Binary64.wholePart, hzero, if_neg (by decide)]
    split <;> omega
  rw [held, if_pos]
  · intro h
    cases h
  · rw [shown, h, signed]
    split <;> omega

/-- A text with digits behind a point is read as the whole part of the floating-point number nearest
to it, if 64 bits with a sign hold that. It is read as the text in front of its point is by itself
exactly if that has digits and those behind the point are harmless. -/
theorem apply_int_of_point (hds : (sign cs).2.all Char.isDigit) (hf : AreDigits f) :
    int.apply (String.ofList (cs ++ '.' :: f)) = held (shown cs f) ∧
    (int.apply (String.ofList (cs ++ '.' :: f)) = int.apply (String.ofList cs) ↔
      (sign cs).2 ≠ [] ∧ Harmless (front cs) f) := by
  have hpoint : int.apply (String.ofList (cs ++ '.' :: f)) = held (shown cs f) := by
    rw [apply, String.toList_ofList, trim_point hds hf, integer_of_point hds hf, held]
  have hfront : int.apply (String.ofList cs) = integer cs := by
    rw [apply, String.toList_ofList, trim_front hds]
  refine ⟨hpoint, ?_⟩
  rw [hpoint, hfront]
  by_cases hne : (sign cs).2 = []
  · rw [integer_of_bare hne]
    exact iff_of_false (held_shown_of_bare hf hne) fun h => h.1 hne
  have hnumeral := numeral_front ⟨hne, hds⟩
  rw [and_iff_right hne, Harmless]
  -- The text in front of the point is read exactly, rounded or not at all, by where it lies.
  by_cases hhigh : 2 ^ 63 ≤ front cs
  · rw [if_pos hhigh, held_shown_of_le hf hhigh, eq_comm]
    exact integer_eq_null_iff hnumeral hhigh
  rw [if_neg hhigh, integer_of_numeral hnumeral]
  by_cases hlow : front cs < -2 ^ 63
  · rw [if_pos hlow, ← held_shown_of_lt hf hlow, if_neg (by omega)]
    rfl
  · rw [if_neg hlow, if_pos (by omega)]
    exact held_shown_of_fits hf (by omega) (by omega)

/-- Digits behind the point of an even number with 54 bits, on either side of the middle. -/
theorem apply_int_of_point_even :
    (sign "-9007199254740994".toList).2.all Char.isDigit ∧ AreDigits "99999".toList ∧
      Harmless (front "-9007199254740994".toList) "99999".toList ∧
      int.apply "-9007199254740994.99999" = int.apply "-9007199254740994" := by
  have hds : (sign "-9007199254740994".toList).2.all Char.isDigit := by cbv
  have hf : AreDigits "99999".toList := ⟨by decide, by cbv⟩
  have hfront : front "-9007199254740994".toList = -9007199254740994 := by cbv
  have hharmless : Harmless (front "-9007199254740994".toList) "99999".toList := by
    rw [hfront, Harmless, if_neg (by decide), if_neg (by decide), Stays, if_neg (by decide),
      if_neg (by decide)]
    exact ⟨4503599627370497, by decide +kernel⟩
  exact ⟨hds, hf, hharmless, (apply_int_of_point hds hf).2.2 ⟨by decide, hharmless⟩⟩

/-- A number just below one is read as one, and an odd one with 54 bits as its neighbour. -/
theorem exists_rounded_away :
    int.apply "0.99999999999999999999" = .int 1 ∧ int.apply "0" = .int 0 ∧
      int.apply "9007199254740993.0" = .int 9007199254740992 ∧
      int.apply "9007199254740993" = .int 9007199254740993 := by
  exact ⟨rfl, rfl, rfl, rfl⟩

end Grok.Coercion
