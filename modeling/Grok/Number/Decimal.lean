/-!
Decimal numbers as they are written: digits, a point, a power of ten. The value is exact.
-/
namespace Grok.Number

/-- The number `± digits · 10 ^ exponent`. -/
structure Decimal where
  negative : Bool
  digits : Nat
  exponent : Int
  deriving DecidableEq, Repr

def digitsValue (cs : List Char) : Nat :=
  cs.foldl (fun n c => 10 * n + (c.toNat - '0'.toNat)) 0

def spanDigits (cs : List Char) : List Char × List Char :=
  (cs.takeWhile Char.isDigit, cs.dropWhile Char.isDigit)

def sign : List Char → Bool × List Char
  | '-' :: r => (true, r)
  | '+' :: r => (false, r)
  | cs => (false, cs)

/-- A whole number: a sign or none, and at least one digit. -/
def integer? (cs : List Char) : Option Int :=
  let (negative, ds) := sign cs
  if ds.isEmpty || !ds.all Char.isDigit then none
  else if negative then some (-(digitsValue ds : Int)) else some (digitsValue ds)

/-- The power of ten behind a mantissa, which must be the rest of the text. -/
def exponent? : List Char → Option Int
  | [] => some 0
  | c :: r => if c = 'e' || c = 'E' then integer? r else none

/-- A decimal number: digits with a point somewhere or nowhere, then perhaps a power of ten. -/
def Decimal.ofText? (cs : List Char) : Option Decimal :=
  let (negative, r) := sign cs
  let (whole, r) := spanDigits r
  let (fraction, r) :=
    match r with
    | '.' :: r => spanDigits r
    | _ => ([], r)
  if whole.isEmpty && fraction.isEmpty then none
  else
    (exponent? r).map fun e =>
      ⟨negative, digitsValue (whole ++ fraction), e - fraction.length⟩

end Grok.Number
