import Grok.Text.Case
/-!
Sets of code points, as classes and their shorthands denote them.
-/
namespace Grok.Regex

def greatestPoint : Nat := 0x10FFFF

structure PointSet where
  /-- Ranges in ascending order, no two of which touch. -/
  ranges : List (Nat × Nat)
  deriving DecidableEq, Repr

namespace PointSet

def empty : PointSet := ⟨[]⟩

def isEmpty (s : PointSet) : Bool := s.ranges.isEmpty

def contains (s : PointSet) (n : Nat) : Bool := s.ranges.any fun r => r.1 ≤ n && n ≤ r.2

/-- Adds a range, and melts it with those that it touches. -/
def insertRange (first last : Nat) : List (Nat × Nat) → List (Nat × Nat)
  | [] => [(first, last)]
  | (a, b) :: rs =>
    if last + 1 < a then (first, last) :: (a, b) :: rs
    else if b + 1 < first then (a, b) :: insertRange first last rs
    else insertRange (min first a) (max last b) rs

def insert (s : PointSet) (first last : Nat) : PointSet := ⟨insertRange first last s.ranges⟩

def ofRanges (rs : List (Nat × Nat)) : PointSet := rs.foldl (fun s r => s.insert r.1 r.2) empty

def ofPoints (ns : List Nat) : PointSet := ns.foldl (fun s n => s.insert n n) empty

def union (s t : PointSet) : PointSet := t.ranges.foldl (fun s r => s.insert r.1 r.2) s

/-- The code points from `first` on that are in none of some ranges. -/
def gaps (first : Nat) : List (Nat × Nat) → List (Nat × Nat)
  | [] => if first ≤ greatestPoint then [(first, greatestPoint)] else []
  | (a, b) :: rs => if first < a then (first, a - 1) :: gaps (b + 1) rs else gaps (b + 1) rs

def complement (s : PointSet) : PointSet := ⟨gaps 0 s.ranges⟩

/-- Adds all code points that fold to the same character as one of the set. -/
def closeCase (s : PointSet) : PointSet :=
  let keys := ofPoints ((Text.casedPoints.filter fun p => s.contains p.point).map (·.foldKey))
  s.union (ofPoints ((Text.casedPoints.filter fun p => keys.contains p.foldKey).map (·.point)))

def sameCapital (n : Nat) : PointSet := ofPoints (n :: Text.sameCapital n)

theorem contains_insert (s : PointSet) (first last n : Nat) :
    (s.insert first last).contains n = (decide (first ≤ n ∧ n ≤ last) || s.contains n) := by
  obtain ⟨rs⟩ := s
  simp only [insert, contains]
  induction rs generalizing first last with
  | nil => simp [insertRange, Bool.decide_and]
  | cons r rs ih =>
    obtain ⟨a, b⟩ := r
    unfold insertRange
    split
    · simp [Bool.decide_and]
    · split
      · simp only [List.any_cons, ih]
        cases (decide (first ≤ n ∧ n ≤ last)) <;> cases (decide (a ≤ n) && decide (n ≤ b)) <;> rfl
      · rw [ih, List.any_cons, ← Bool.or_assoc, ← Bool.decide_and, ← Bool.decide_or]
        congr 1
        exact decide_eq_decide.2 (by simp only; omega)

end PointSet

/-- The alphabets that have a shorthand. -/
inductive Alphabet where
  | digit
  | blank
  | word
  deriving DecidableEq, Repr

/-- Digits and word characters are those of ASCII. The blanks are those of all scripts, the ends of
lines and the mark for the order of bytes. -/
def Alphabet.points : Alphabet → PointSet
  | .digit => .ofRanges [(0x30, 0x39)]
  | .blank =>
    .ofRanges [(0x09, 0x0D), (0x20, 0x20), (0xA0, 0xA0), (0x1680, 0x1680), (0x2000, 0x200A),
      (0x2028, 0x2029), (0x202F, 0x202F), (0x205F, 0x205F), (0x3000, 0x3000), (0xFEFF, 0xFEFF)]
  | .word => .ofRanges [(0x30, 0x39), (0x41, 0x5A), (0x5F, 0x5F), (0x61, 0x7A)]

inductive ClassItem where
  | range (first last : Nat)
  | within (a : Alphabet)
  | outside (a : Alphabet)
  deriving DecidableEq, Repr

def ClassItem.points : ClassItem → PointSet
  | .range first last => .ofRanges [(first, last)]
  | .within a => a.points
  | .outside a => a.points.complement

/-- A class in brackets: the union of some items, or what is outside that union. -/
structure CharClass where
  negated : Bool
  items : List ClassItem
  deriving DecidableEq, Repr

/-- The code points of a class. Without regard to case they are closed under folding before they
are negated. -/
def CharClass.points (c : CharClass) (ignoreCase : Bool) : PointSet :=
  let listed := c.items.foldl (fun s i => s.union i.points) .empty
  let closed := if ignoreCase then listed.closeCase else listed
  if c.negated then closed.complement else closed

end Grok.Regex
