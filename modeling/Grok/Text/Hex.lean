/-!
Hexadecimal digits.
-/
namespace Grok.Text

def hexDigit? (c : Char) : Option Nat :=
  if c.isDigit then some (c.toNat - '0'.toNat)
  else if 'a' ≤ c && c ≤ 'f' then some (c.toNat - 'a'.toNat + 10)
  else if 'A' ≤ c && c ≤ 'F' then some (c.toNat - 'A'.toNat + 10)
  else none

/-- The number that the characters write, all of which must be digits. -/
def hexNumber? (cs : List Char) : Option Nat :=
  cs.foldlM (fun n c => (hexDigit? c).map (16 * n + ·)) 0

/-- The number that exactly `count` digits at the start of the text write. -/
def hexStart? (count : Nat) (cs : List Char) : Option Nat :=
  let ds := cs.take count
  if ds.length = count then hexNumber? ds else none

def isHighSurrogate (n : Nat) : Bool := 0xD800 ≤ n && n < 0xDC00

def isLowSurrogate (n : Nat) : Bool := 0xDC00 ≤ n && n < 0xE000

def ofSurrogates (high low : Nat) : Nat :=
  0x10000 + (high - 0xD800) * 0x400 + (low - 0xDC00)

/-- The code point that four digits write behind `\u`, and the characters they take. The two halves
of a surrogate pair are one code point. -/
def escapedPoint? (cs : List Char) : Option (Nat × Nat) :=
  (hexStart? 4 cs).map fun n =>
    match cs.drop 4 with
    | '\\' :: 'u' :: r =>
      match hexStart? 4 r with
      | some m =>
        if isHighSurrogate n && isLowSurrogate m then (ofSurrogates n m, 10)
        else (n, 4)
      | none => (n, 4)
    | _ => (n, 4)

end Grok.Text
