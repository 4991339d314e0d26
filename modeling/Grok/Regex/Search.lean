import Grok.Regex.Node
/-!
Searching a text for the first match of an expression, by backtracking. Every node that is tried
counts as a step, as does every character of a run, and a search can be given a limit of steps;
within its limit it answers as it would without one.
-/
namespace Grok.Regex

/-- A stretch of a text, from one offset up to another. -/
structure Span where
  first : Nat
  last : Nat
  deriving DecidableEq, Repr

namespace Span

def between (i j : Nat) : Span := ⟨min i j, max i j⟩

def text (s : Span) (xs : Array Char) : List Char := (xs.extract s.first s.last).toList

end Span

/-- What the groups have captured so far, newest first. The newest entry of a group counts, and one
without a span forgets what the group captured. -/
abbrev Bindings := List (Nat × Option Span)

namespace Bindings

def get? (bs : Bindings) (group : Nat) : Option Span := (bs.lookup group).join

def bind (bs : Bindings) (group : Nat) (s : Span) : Bindings := (group, some s) :: bs

/-- Forgets what some groups captured. -/
def clear (bs : Bindings) (groups : List Nat) : Bindings :=
  groups.foldl (fun bs group => (group, none) :: bs) bs

end Bindings

/-- The way in which the text is read. A look behind reads backward. -/
inductive Direction where
  | forward
  | backward
  deriving DecidableEq, Repr

/-- A text to search, and the steps that the search may take. -/
structure Task where
  text : Array Char
  limit : Option Nat

inductive Answer where
  /-- A match that ends at an offset. -/
  | matched (stop : Nat) (bindings : Bindings) (steps : Nat)
  | failed (steps : Nat)
  | exhausted

/-- What is left to match once a node has matched: the offset reached, the bindings and the steps
taken are handed on. -/
abbrev Rest := Nat → Bindings → Nat → Answer

namespace Direction

def room (d : Direction) (t : Task) (i : Nat) : Nat :=
  match d with
  | forward => t.text.size - i
  | backward => i

@[inline] def peek? (d : Direction) (t : Task) (i : Nat) : Option Char :=
  match d with
  | forward => t.text[i]?
  | backward => if i = 0 then none else t.text[i - 1]?

/-- The offset `n` characters on. -/
def advance (d : Direction) (n i : Nat) : Nat :=
  match d with
  | forward => i + n
  | backward => i - n

end Direction

namespace Task

def isWordAt (t : Task) (i : Nat) : Bool := t.text[i]?.any Text.isWord

/-- Whether exactly one side of an offset is a word character. -/
def isEdge (t : Task) (i : Nat) : Bool :=
  (i != 0 && t.isWordAt (i - 1)) != t.isWordAt i

def isStart (t : Task) (multiline : Bool) (i : Nat) : Bool :=
  i == 0 || (multiline && t.text[i - 1]?.any Text.isLineEnd)

def isStop (t : Task) (multiline : Bool) (i : Nat) : Bool :=
  i == t.text.size || (multiline && t.text[i]?.any Text.isLineEnd)

/-- Whether the search is out of steps after `steps` of them. -/
def isSpent (t : Task) (steps : Nat) : Bool := t.limit.any (· ≤ steps)

end Task

/-- Whether the captured text `s` stands next in the text. -/
def standsNext (t : Task) (d : Direction) (s : Span) (i : Nat) : Bool :=
  let width := s.last - s.first
  let j := d.advance width i
  width ≤ d.room t i &&
    (List.range width).all fun k => t.text[s.first + k]? == t.text[min i j + k]?

/-- The second answer, if the first is a failure. -/
@[inline] def orElse (a : Answer) (b : Nat → Answer) : Answer :=
  match a with
  | .failed steps => b steps
  | a => a

@[inline] def step (t : Task) (steps : Nat) (go : Nat → Answer) : Answer :=
  if t.isSpent steps then .exhausted else go (steps + 1)

/-- Counts a step, and goes on if `b` holds. -/
@[inline] def require (t : Task) (b : Bool) (steps : Nat) (go : Nat → Answer) : Answer :=
  step t steps fun steps => if b then go steps else .failed steps

/-- Whether the next character passes a test. -/
@[inline] def accepts (t : Task) (d : Direction) (test : CharTest) (i : Nat) : Bool :=
  match d.peek? t i with
  | some c => test.accepts c
  | none => false

/-- How many of the next `left` characters pass a test before one fails, and `found` more. -/
def runLength (t : Task) (d : Direction) (test : CharTest) (i : Nat) : (left found : Nat) → Nat
  | 0, found => found
  | left + 1, found =>
    if accepts t d test i then runLength t d test (d.advance 1 i) left (found + 1) else found

/-- Goes on behind `least` characters and up to `extra` more, most of them first. -/
def fromLongest (t : Task) (d : Direction) (k : Rest) (least : Nat) : (extra : Nat) → Rest
  | 0, i, bs, steps => step t steps fun steps => k (d.advance least i) bs steps
  | extra + 1, i, bs, steps =>
    orElse (step t steps fun steps => k (d.advance (least + (extra + 1)) i) bs steps) fun steps =>
      fromLongest t d k least extra i bs steps

/-- Goes on behind `least` characters and up to `extra` more, fewest of them first. -/
def fromShortest (t : Task) (d : Direction) (k : Rest) (least : Nat) : (extra : Nat) → Rest
  | 0, i, bs, steps => step t steps fun steps => k (d.advance least i) bs steps
  | extra + 1, i, bs, steps =>
    orElse (step t steps fun steps => k (d.advance least i) bs steps) fun steps =>
      fromShortest t d k (least + 1) extra i bs steps

def runs (t : Task) (d : Direction) (test : CharTest) (q : Quantifier) (k : Rest) (i : Nat)
    (bs : Bindings) (steps : Nat) : Answer :=
  let room := d.room t i
  let found := runLength t d test i (q.most.elim room (min room)) 0
  step t (steps + found) fun steps =>
    if found < q.least then .failed steps
    else if q.greedy then fromLongest t d k q.least (found - q.least) i bs steps
    else fromShortest t d k q.least (found - q.least) i bs steps

/-- Repeats a body at least `least` and at most `most` times. Beyond the least count a pass over the
body has to read something. The groups inside are forgotten before each pass. -/
def iterate (t : Task) (d : Direction) (body : Rest → Rest) (inner : List Nat) (greedy : Bool)
    (k : Rest) (least : Nat) (most : Option Nat) (i : Nat) (bs : Bindings) (steps : Nat) : Answer :=
  step t steps fun steps =>
    let again (steps : Nat) : Answer :=
      if most = some 0 then .failed steps
      else
        body (fun j bs steps =>
          if h : least ≠ 0 ∨ d.room t j < d.room t i then
            iterate t d body inner greedy k (least - 1) (most.map (· - 1)) j bs steps
          else .failed steps) i (bs.clear inner) steps
    if least ≠ 0 then again steps
    else if greedy then orElse (again steps) fun steps => k i bs steps
    else orElse (k i bs steps) again
termination_by (least, d.room t i)
decreasing_by
  rcases h with h | h
  · exact Prod.Lex.left _ _ (by omega)
  · by_cases hl : least = 0
    · subst hl; exact Prod.Lex.right _ h
    · exact Prod.Lex.left _ _ (by omega)

namespace Node

/-- Matches a node at an offset and goes on with `k`. -/
def attempt (t : Task) : Node → Direction → Rest → Nat → Bindings → Nat → Answer
  | .empty, _, k, i, bs, steps => k i bs steps
  | .char test, d, k, i, bs, steps =>
    require t (accepts t d test i) steps fun steps => k (d.advance 1 i) bs steps
  | .start multiline, _, k, i, bs, steps =>
    require t (t.isStart multiline i) steps fun steps => k i bs steps
  | .stop multiline, _, k, i, bs, steps =>
    require t (t.isStop multiline i) steps fun steps => k i bs steps
  | .edge negated, _, k, i, bs, steps =>
    require t (t.isEdge i != negated) steps fun steps => k i bs steps
  | .backReference g, d, k, i, bs, steps =>
    match bs.get? g with
    | none => step t steps fun steps => k i bs steps
    | some s =>
      require t (standsNext t d s i) steps fun steps => k (d.advance (s.last - s.first) i) bs steps
  | .group number _ body, d, k, i, bs, steps =>
    body.attempt t d (fun j bs steps => k j (bs.bind number (.between i j)) steps) i bs steps
  | .look behind negated body, _, k, i, bs, steps =>
    step t steps fun steps =>
      match body.attempt t (if behind then .backward else .forward) .matched i bs steps with
      | .matched _ bs' steps => if negated then .failed steps else k i bs' steps
      | .failed steps => if negated then k i bs steps else .failed steps
      | .exhausted => .exhausted
  | .both a b, .forward, k, i, bs, steps => a.attempt t .forward (b.attempt t .forward k) i bs steps
  | .both a b, .backward, k, i, bs, steps =>
    b.attempt t .backward (a.attempt t .backward k) i bs steps
  | .either a b, d, k, i, bs, steps =>
    orElse (a.attempt t d k i bs steps) fun steps => b.attempt t d k i bs steps
  | .loop q (.char test), d, k, i, bs, steps => runs t d test q k i bs steps
  | .loop q body, d, k, i, bs, steps =>
    iterate t d (body.attempt t d) (body.groups.map (·.1)) q.greedy k q.least q.most i bs steps

end Node

structure Found where
  span : Span
  bindings : Bindings

inductive Verdict where
  | found (f : Found) (steps : Nat)
  | absent (steps : Nat)
  | exhausted

/-- Tries the offsets from `i` on, of which there are `left` and the end of the text. -/
def searchFrom (t : Task) (n : Node) (i : Nat) (left : Nat) (steps : Nat) : Verdict :=
  match n.attempt t .forward .matched i [] steps with
  | .matched j bs steps => .found ⟨⟨i, j⟩, bs⟩ steps
  | .exhausted => .exhausted
  | .failed steps =>
    match left with
    | 0 => .absent steps
    | left + 1 => searchFrom t n (i + 1) left steps

def search (t : Task) (n : Node) : Verdict := searchFrom t n.pruned 0 t.text.size 0

end Grok.Regex
