import Grok.Number.Decimal
/-!
Finite binary floating-point numbers of 64 bits, and the number of this kind that is nearest to an
exact value.
-/
namespace Grok.Number

/-- The number `± mantissa · 2 ^ exponent`. The mantissa has at most 53 bits; it has fewer only at
the least exponent, -1074. -/
structure Binary64 where
  negative : Bool
  mantissa : Nat
  exponent : Int
  deriving DecidableEq, Repr

/-- The power of two, or one if the exponent is negative. -/
def twoPow (e : Int) : Nat := Nat.pow 2 e.toNat

/-- The power of ten, or one if the exponent is negative. -/
def tenPow (e : Int) : Nat := Nat.pow 10 e.toNat

/-- Rounds a quotient to the nearest whole number, a tie to the even one. -/
def roundHalfEven (num den : Nat) : Nat :=
  let q := num / den
  let r := num % den
  if 2 * r < den then q
  else if den < 2 * r then q + 1
  else q + q % 2

namespace Binary64

def leastExponent : Int := -1074

def greatestExponent : Int := 971

/-- The first of 53 bits, 2⁵². -/
def leadingBit : Nat := 4503599627370496

/-- The exponent at which the quotient has 53 bits before the point, or the least exponent. -/
def exponentOf (num den : Nat) : Int :=
  let q : Int := max (num.log2 - den.log2 - 53) leastExponent
  if den * twoPow (53 + q) ≤ num * twoPow (-(53 + q)) then q + 1 else q

/-- The number nearest to `± num / den`, of two equally near the one with the even mantissa.
There is none if the quotient is too large. -/
def ofRatio (negative : Bool) (num den : Nat) : Option Binary64 :=
  if num = 0 then some ⟨negative, 0, leastExponent⟩
  else
    let q := exponentOf num den
    let m := roundHalfEven (num * twoPow (-q)) (den * twoPow q)
    let x : Binary64 :=
      if m = 2 * leadingBit then ⟨negative, leadingBit, q + 1⟩ else ⟨negative, m, q⟩
    if x.exponent ≤ greatestExponent then some x else none

/-- The number nearest to a decimal. Powers of ten far outside the range decide by themselves. -/
def ofDecimal (d : Decimal) : Option Binary64 :=
  if d.digits = 0 then some ⟨d.negative, 0, leastExponent⟩
  else if 400 < d.exponent then none
  else if d.exponent + d.digits.log2 + 1 < -400 then some ⟨d.negative, 0, leastExponent⟩
  else ofRatio d.negative (d.digits * tenPow d.exponent) (tenPow (-d.exponent))

/-- The whole part, with what follows the point cut off. -/
def truncate (x : Binary64) : Int :=
  let n : Int := x.mantissa * twoPow x.exponent / twoPow (-x.exponent)
  if x.negative then -n else n

/-- The 64 bits, sign first, then the biased exponent, then the mantissa without its first bit. -/
def toBits (x : Binary64) : Nat :=
  (if x.negative then 2048 * leadingBit else 0) +
    (x.exponent - leastExponent).toNat * leadingBit + x.mantissa

/-- The number with these bits, unless they stand for no finite number. -/
def ofBits (bits : Nat) : Option Binary64 :=
  let biased : Nat := bits / leadingBit % 2048
  let low : Nat := bits % leadingBit
  let negative := bits / leadingBit / 2048 % 2 == 1
  if biased = 2047 then none
  else if biased = 0 then some ⟨negative, low, leastExponent⟩
  else some ⟨negative, leadingBit + low, (biased : Int) - 1075⟩

end Binary64

end Grok.Number
