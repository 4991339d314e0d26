import Grok.Regex.Token
import Grok.Text.Space
/-!
Expressions as trees. Every leaf carries the modifiers that hold where it stands: one that does not
regard case is a set, which lists the characters of either case.
-/
namespace Grok.Regex

/-- What is asked of a character. -/
inductive CharTest where
  | exactly (n : Nat)
  /-- Anything at all, or anything but the end of a line. -/
  | any (dotAll : Bool)
  | among (s : PointSet)
  deriving DecidableEq, Repr

namespace CharTest

def accepts : CharTest → Char → Bool
  | exactly n, c => c.toNat == n
  | any dotAll, c => dotAll || !Text.isLineEnd c
  | among s, c => s.contains c.toNat

/-- Whether no character can pass. -/
def isVain : CharTest → Bool
  | among s => s.isEmpty
  | _ => false

end CharTest

inductive Node where
  | empty
  | char (test : CharTest)
  | start (multiline : Bool)
  | stop (multiline : Bool)
  | edge (negated : Bool)
  /-- The text that a group captured, character for character. -/
  | backReference (group : Nat)
  | group (number : Nat) (name : Option String) (body : Node)
  | look (behind negated : Bool) (body : Node)
  | both (first second : Node)
  | either (first second : Node)
  | loop (q : Quantifier) (body : Node)
  deriving DecidableEq, Repr

namespace Node

def groups : Node → List (Nat × Option String)
  | group number name body => (number, name) :: body.groups
  | look _ _ body | loop _ body => body.groups
  | both a b | either a b => a.groups ++ b.groups
  | _ => []

def groupNames (n : Node) : List String := n.groups.filterMap (·.2)

def never : Node := .char (.among .empty)

def isNever : Node → Bool
  | char test => test.isVain
  | _ => false

/-- The node without the alternatives that match nowhere and the repetitions of nothing. -/
def pruned : Node → Node
  | group number name body =>
    let b := body.pruned
    if b.isNever then never else group number name b
  | look behind negated body =>
    let b := body.pruned
    if b.isNever then if negated then empty else never else look behind negated b
  | both first second =>
    let a := first.pruned
    let b := second.pruned
    if a.isNever || b.isNever then never else both a b
  | either first second =>
    let a := first.pruned
    let b := second.pruned
    if a.isNever then b else if b.isNever then a else either a b
  | loop q body =>
    let b := body.pruned
    if b.isNever then if q.least = 0 then empty else never
    else if b = empty then empty
    else loop q b
  | n => n

end Node

/-- The modifiers that hold at some place. -/
structure Modifiers where
  ignoreCase : Bool
  multiline : Bool
  dotAll : Bool
  deriving DecidableEq, Repr

namespace Modifiers

def initial : Modifiers := ⟨false, false, false⟩

def set (ms : Modifiers) (on : Bool) : Modifier → Modifiers
  | .ignoreCase => { ms with ignoreCase := on }
  | .multiline => { ms with multiline := on }
  | .dotAll => { ms with dotAll := on }

end Modifiers

/-- A term of a sequence, and whether a quantifier may follow it. -/
structure Term where
  node : Node
  repeatable : Bool

/-- An open group: how it was opened, and what has been read in it so far. -/
structure Frame where
  opening : Opening
  number : Nat
  modifiers : Modifiers
  /-- The finished alternatives, last first. -/
  alternatives : List Node
  /-- The terms of the current alternative, last first. -/
  terms : List Term

namespace Frame

def sequence (ts : List Term) : Node :=
  match ts with
  | [] => .empty
  | t :: ts => ts.foldl (fun n t => .both t.node n) t.node

def body (f : Frame) : Node :=
  f.alternatives.foldl (fun n a => .either a n) (sequence f.terms)

/-- The term that a group is once it is closed. A look behind cannot be repeated. -/
def close (f : Frame) : Term :=
  match f.opening with
  | .plain | .modifiers .. => ⟨f.body, true⟩
  | .capture name => ⟨.group f.number name f.body, true⟩
  | .look behind negated => ⟨.look behind negated f.body, !behind⟩

def push (f : Frame) (t : Term) : Frame := { f with terms := t :: f.terms }

def next (f : Frame) : Frame :=
  { f with alternatives := sequence f.terms :: f.alternatives, terms := [] }

/-- Repeats the last term. -/
def quantify (f : Frame) (q : Quantifier) : Except Fault Frame :=
  if q.most.any (· < q.least) then .error .reversedBounds
  else
    match f.terms with
    | t :: ts =>
      if t.repeatable then .ok { f with terms := ⟨.loop q t.node, false⟩ :: ts }
      else .error .nothingToRepeat
    | [] => .error .nothingToRepeat

/-- The group inside `f` that a parenthesis opens. -/
def inside (f : Frame) (o : Opening) (number : Nat) : Frame :=
  let ms := match o with
    | .modifiers added removed =>
      removed.foldl (·.set false ·) (added.foldl (·.set true ·) f.modifiers)
    | _ => f.modifiers
  ⟨o, number, ms, [], []⟩

end Frame

/-- What has been read of an expression. -/
structure Draft where
  top : Frame
  outer : List Frame
  captures : Nat
  loops : Nat

namespace Draft

def initial : Draft := ⟨⟨.plain, 0, .initial, [], []⟩, [], 0, 0⟩

/-- How many capturing groups an expression may have, and how many quantifiers. -/
def capacity : Nat := 65535

def push (d : Draft) (n : Node) (repeatable : Bool) : Draft :=
  { d with top := d.top.push ⟨n, repeatable⟩ }

def add (d : Draft) (t : Token) : Except Fault Draft :=
  let ms := d.top.modifiers
  match t with
  | .point n =>
    let test := if ms.ignoreCase then .among (.sameCapital n) else .exactly n
    .ok (d.push (.char test) true)
  | .any => .ok (d.push (.char (.any ms.dotAll)) true)
  | .shorthand i => .ok (d.push (.char (.among i.points)) true)
  | .charClass c => .ok (d.push (.char (.among (c.points ms.ignoreCase))) true)
  | .start => .ok (d.push (.start ms.multiline) false)
  | .stop => .ok (d.push (.stop ms.multiline) false)
  | .edge negated => .ok (d.push (.edge negated) false)
  | .backReference i => .ok (d.push (.backReference i) true)
  | .bar => .ok { d with top := d.top.next }
  | .quantifier q =>
    if capacity ≤ d.loops then .error .tooManyLoops
    else (d.top.quantify q).map fun f => { d with top := f, loops := d.loops + 1 }
  | .opening o =>
    let n := match o with
      | .capture _ => d.captures + 1
      | _ => d.captures
    if capacity < n then .error .tooManyGroups
    else .ok { d with top := d.top.inside o n, outer := d.top :: d.outer, captures := n }
  | .closing =>
    match d.outer with
    | f :: fs => .ok { d with top := f.push d.top.close, outer := fs }
    | [] => .error .unopenedGroup

end Draft

def Node.ofTokens (ts : List Token) : Except Fault Node := do
  let d ← ts.foldlM Draft.add .initial
  if d.outer.isEmpty then .ok d.top.body else .error .unclosedGroup

/-- The tree of an expression. All group names must differ. -/
def Node.ofText (cs : List Char) : Except Fault Node := do
  let (ts, g) ← tokens cs
  if (g.names.filterMap id).Nodup then Node.ofTokens ts else .error .duplicateGroupName

end Grok.Regex
