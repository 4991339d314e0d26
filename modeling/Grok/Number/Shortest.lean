import Grok.Number.Binary64
/-!
The shortest decimal that stands for a binary number: the fewest digits that read back, of those
the ones nearest to the number.
-/
namespace Grok.Number

def digitCount (n : Nat) : Nat := (Nat.toDigits 10 n).length

/-- Half the distance to the neighbours, below and above, and the number itself, all over one
denominator. The neighbour below is nearer at a power of two. -/
structure Interval where
  below : Nat
  value : Nat
  above : Nat
  den : Nat
  /-- Whether the ends round to the number. -/
  closed : Bool

/-- The decimals between the ends of the interval read back as `mantissa · 2 ^ exponent`. -/
def Binary64.interval (x : Binary64) : Interval :=
  let up := twoPow x.exponent
  let down := twoPow (-x.exponent)
  let v := 4 * x.mantissa * up
  let low := if x.mantissa = leadingBit && x.exponent ≠ leastExponent then v - up else v - 2 * up
  ⟨low, v, v + 2 * up, 4 * down, x.mantissa % 2 == 0⟩

/-- Whether `n · unit / unitDen` lies in the interval. -/
def Interval.has (i : Interval) (n unit unitDen : Nat) : Bool :=
  let p := n * unit * i.den
  let low := i.below * unitDen
  let high := i.above * unitDen
  if i.closed then low ≤ p && p ≤ high else low < p && p < high

/-- The decimal exponent of the first digit of a quotient. -/
def leadingExponent (num den : Nat) : Int :=
  let e : Int := (digitCount num : Int) - digitCount den
  if den * tenPow e ≤ num * tenPow (-e) then e else e - 1

/-- The point of a decimal grid nearest to the value, if it or its neighbour reads back. -/
def Interval.onGrid (i : Interval) (e : Int) : Option Nat :=
  let unit := tenPow e
  let unitDen := tenPow (-e)
  let num := i.value * unitDen
  let den := i.den * unit
  let n := num / den
  let nearest := roundHalfEven num den
  let other := if nearest = n then n + 1 else n
  if i.has nearest unit unitDen then some nearest
  else if i.has other unit unitDen then some other
  else none

/-- Looks for the coarsest grid with a point that reads back, `fuel` grids in all. -/
def Interval.search (i : Interval) (e : Int) : Nat → Nat × Int
  | 0 => (0, e)
  | fuel + 1 =>
    match i.onGrid e with
    | some n => (n, e)
    | none => i.search (e - 1) fuel

/-- Moves the zeros at the end of the digits into the exponent. -/
def dropZeros : Nat → Nat → Int → Nat × Int
  | 0, n, e => (n, e)
  | fuel + 1, n, e => if n % 10 = 0 && n ≠ 0 then dropZeros fuel (n / 10) (e + 1) else (n, e)

/-- The shortest decimal of a number, without zeros at the end. Seventeen digits always do. -/
def Binary64.shortest (x : Binary64) : Decimal :=
  if x.mantissa = 0 then ⟨x.negative, 0, 0⟩
  else
    let i := x.interval
    let (n, e) := i.search (leadingExponent i.value i.den) 18
    let (n, e) := dropZeros 20 n e
    ⟨x.negative, n, e⟩

structure Layout where
  /-- The least and the greatest exponent of the first digit that are written without a power of
  ten. -/
  plainFrom : Int
  plainTo : Int

/-- Without a power of ten, and always with a point. -/
def plainText (n : Nat) (e : Int) : String :=
  let ds := toString n
  if 0 ≤ e then ds ++ String.ofList (List.replicate e.toNat '0') ++ ".0"
  else
    let places := (-e).toNat
    let padded := List.replicate (places + 1 - ds.length) '0' ++ ds.toList
    String.ofList (padded.take (padded.length - places)) ++ "." ++
      String.ofList (padded.drop (padded.length - places))

/-- One digit before the point, and a power of ten with its sign. -/
def scientificText (n : Nat) (e : Int) : String :=
  let ds := (toString n).toList
  let power := e + ds.length - 1
  let rest := ds.drop 1
  String.ofList (ds.take 1) ++ (if rest.isEmpty then "" else "." ++ String.ofList rest) ++ "e" ++
    (if power < 0 then "-" else "+") ++ toString power.natAbs

def Layout.text (l : Layout) (d : Decimal) : String :=
  let power := d.exponent + digitCount d.digits - 1
  (if d.negative then "-" else "") ++
    if l.plainFrom ≤ power && power ≤ l.plainTo then plainText d.digits d.exponent
    else scientificText d.digits d.exponent

end Grok.Number
