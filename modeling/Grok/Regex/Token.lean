import Grok.Number.Decimal
import Grok.Number.Word
import Grok.Regex.Fault
import Grok.Regex.GroupName
import Grok.Regex.PointSet
/-!
The tokens of an expression. A token is read at its first character, and the reader says how many
of the following characters belong to it.

What a backslash means can depend on the groups of the whole expression, those that open later
included, so tokens are read twice: once to find the groups, and once with the groups known.
-/
namespace Grok.Regex

/-- What a group can switch on or off for the expression inside. -/
inductive Modifier where
  | ignoreCase
  | multiline
  | dotAll
  deriving DecidableEq, Repr

inductive Opening where
  | plain
  | capture (name : Option String)
  /-- Looks ahead or behind for what must or must not be there. -/
  | look (behind negated : Bool)
  | modifiers (added removed : List Modifier)
  deriving DecidableEq, Repr

structure Quantifier where
  least : Nat
  most : Option Nat
  greedy : Bool
  deriving DecidableEq, Repr

inductive Token where
  | point (n : Nat)
  /-- Any character but the ends of lines. -/
  | any
  /-- A shorthand that stands outside brackets. -/
  | shorthand (i : ClassItem)
  | charClass (c : CharClass)
  | start
  | stop
  /-- The edge of a word, or anywhere but there. -/
  | edge (negated : Bool)
  | backReference (group : Nat)
  | opening (o : Opening)
  | closing
  | bar
  | quantifier (q : Quantifier)
  deriving DecidableEq, Repr

/-- What the reader knows of the groups: the names of all capturing groups, in order. -/
structure Groups where
  names : List (Option String)
  deriving DecidableEq, Repr

namespace Groups

def none : Groups := ⟨[]⟩

def count (g : Groups) : Nat := g.names.length

def hasNames (g : Groups) : Bool := g.names.any (·.isSome)

def number? (g : Groups) (name : String) : Option Nat :=
  (g.names.findIdx? (· == some name)).map (· + 1)

end Groups

/-! ### Escapes -/

/-- The character that a letter behind a backslash stands for. -/
def controlLetter? : Char → Option Nat
  | 't' => some 0x09
  | 'n' => some 0x0A
  | 'v' => some 0x0B
  | 'f' => some 0x0C
  | 'r' => some 0x0D
  | _ => none

/-- The alphabet that a letter behind a backslash stands for. -/
def shorthand? : Char → Option ClassItem
  | 'd' => some (.within .digit)
  | 'D' => some (.outside .digit)
  | 's' => some (.within .blank)
  | 'S' => some (.outside .blank)
  | 'w' => some (.within .word)
  | 'W' => some (.outside .word)
  | _ => none

def isOctal (c : Char) : Bool := '0' ≤ c && c ≤ '7'

/-- The octal number at the start of a text, of at most three digits and below 256, and how many
digits it takes. -/
def octal (cs : List Char) : Nat × Nat :=
  let ds := cs.takeWhile isOctal
  let width := if ds.head?.any (· ≤ '3') then 3 else 2
  let ds := ds.take width
  (ds.foldl (fun n c => 8 * n + (c.toNat - '0'.toNat)) 0, ds.length)

/-- The code point that the escape `c`, `r` stands for wherever it stands, and how many characters
of `r` belong to it. Any character that means nothing stands for itself. -/
def pointEscape (c : Char) (r : List Char) : Nat × Nat :=
  match controlLetter? c with
  | some n => (n, 0)
  | none =>
    if isOctal c then
      let (n, w) := octal (c :: r)
      (n, w - 1)
    else if c = 'x' then
      match Text.hexStart? 2 r with
      | some n => (n, 2)
      | none => (c.toNat, 0)
    else if c = 'u' then (Text.escapedPoint? r).getD (c.toNat, 0)
    else (c.toNat, 0)

/-- The control character that a letter behind `\c` stands for. -/
def controlPoint (c : Char) : Nat := c.toNat % 32

/-- The escape behind a backslash, outside a class. -/
def escape (g : Groups) : List Char → Except Fault (Token × Nat)
  | [] => .error .trailingBackslash
  | c :: r =>
    if c = 'b' then .ok (.edge false, 1)
    else if c = 'B' then .ok (.edge true, 1)
    else if c = 'c' then
      match r with
      | d :: _ => if d.isAlpha then .ok (.point (controlPoint d), 2) else .ok (.point '\\'.toNat, 0)
      | [] => .ok (.point '\\'.toNat, 0)
    else if c = 'k' && g.hasNames then
      match r with
      | '<' :: r =>
        match groupName? true r with
        | some (name, w) =>
          match g.number? (String.ofList name) with
          | some i => .ok (.backReference i, 2 + w)
          | none => .error .unknownGroupName
        | none => .error .badGroupName
      | _ => .error .badGroupName
    else
      match shorthand? c with
      | some i => .ok (.shorthand i, 1)
      | none =>
        let ds := (c :: r).takeWhile Char.isDigit
        let n := Number.digitsValue ds
        if 0 < n && n ≤ g.count && c ≠ '0' then .ok (.backReference n, ds.length)
        else
          let (n, w) := pointEscape c r
          .ok (.point n, 1 + w)

/-! ### Classes -/

/-- What a class lists. A hyphen is kept apart, for it may be the middle of a range. -/
inductive Member where
  | point (n : Nat)
  | hyphen
  | item (i : ClassItem)
  deriving DecidableEq, Repr

/-- The escape behind a backslash in a class. -/
def memberEscape (g : Groups) : List Char → Except Fault (Member × Nat)
  | [] => .error .unclosedClass
  | c :: r =>
    if c = 'b' then .ok (.point 0x08, 1)
    else if c = 'c' then
      match r with
      | d :: _ =>
        if Text.isWord d then .ok (.point (controlPoint d), 2) else .ok (.point '\\'.toNat, 0)
      | [] => .ok (.point '\\'.toNat, 0)
    else if c = 'k' && g.hasNames then .error .badGroupName
    else
      match shorthand? c with
      | some i => .ok (.item i, 1)
      | none =>
        let (n, w) := pointEscape c r
        .ok (.point n, 1 + w)

/-- The member that begins at `c`, and how many characters of `r` belong to it. -/
def member (g : Groups) (c : Char) (r : List Char) : Except Fault (Member × Nat) :=
  if c = '\\' then memberEscape g r
  else if c = '-' then .ok (.hyphen, 0)
  else .ok (.point c.toNat, 0)

/-- The members of a class and the characters they take, the closing bracket included. -/
def members (g : Groups) : List Char → Except Fault (List Member × Nat)
  | [] => .error .unclosedClass
  | c :: r =>
    if c = ']' then .ok ([], 1)
    else
      match member g c r with
      | .error e => .error e
      | .ok (m, w) =>
        match members g (r.drop w) with
        | .error e => .error e
        | .ok (ms, v) => .ok (m :: ms, 1 + w + v)
termination_by cs => cs.length
decreasing_by simp only [List.length_drop, List.length_cons]; omega

def Member.toItem : Member → ClassItem
  | .point n => .range n n
  | .hyphen => .range '-'.toNat '-'.toNat
  | .item i => i

/-- The code point of a member, unless it is a whole alphabet. -/
def Member.point? : Member → Option Nat
  | .point n => some n
  | .hyphen => some '-'.toNat
  | .item _ => none

/-- A hyphen between two characters makes a range. Beside an alphabet it is itself. -/
def classItems : List Member → Except Fault (List ClassItem)
  | a :: .hyphen :: b :: r =>
    match a.point?, b.point? with
    | some first, some last =>
      if first ≤ last then (classItems r).map (.range first last :: ·) else .error .reversedRange
    | _, _ => (classItems r).map ([a.toItem, Member.hyphen.toItem, b.toItem] ++ ·)
  | a :: r => (classItems r).map (a.toItem :: ·)
  | [] => .ok []

def classToken (g : Groups) (r : List Char) : Except Fault (Token × Nat) := do
  let negated := r.head? == some '^'
  let skipped := if negated then 1 else 0
  let (ms, w) ← members g (r.drop skipped)
  let items ← classItems ms
  return (.charClass ⟨negated, items⟩, skipped + w)

/-! ### Groups -/

def modifier? : Char → Option Modifier
  | 'i' => some .ignoreCase
  | 'm' => some .multiline
  | 's' => some .dotAll
  | _ => none

/-- Modifiers between a question mark and a colon: those to add, then behind a hyphen those to
remove. None may come twice, and a hyphen needs at least one. -/
def modifiers (r : List Char) : Except Fault (Token × Nat) :=
  let head := r.takeWhile (· ≠ ':')
  let added := head.takeWhile (· ≠ '-')
  let removed := (head.drop added.length).drop 1
  match r.drop head.length, added.mapM modifier?, removed.mapM modifier? with
  | ':' :: _, some a, some b =>
    if (a ++ b).Nodup && !(a ++ b).isEmpty then .ok (.opening (.modifiers a b), head.length + 2)
    else .error .unknownGroup
  | _, _, _ => .error .unknownGroup

/-- The group that a parenthesis opens. -/
def openingToken : List Char → Except Fault (Token × Nat)
  | '?' :: ':' :: _ => .ok (.opening .plain, 2)
  | '?' :: '=' :: _ => .ok (.opening (.look false false), 2)
  | '?' :: '!' :: _ => .ok (.opening (.look false true), 2)
  | '?' :: '<' :: '=' :: _ => .ok (.opening (.look true false), 3)
  | '?' :: '<' :: '!' :: _ => .ok (.opening (.look true true), 3)
  | '?' :: '<' :: r =>
    match groupName? true r with
    | some (name, w) => .ok (.opening (.capture (some (String.ofList name))), 2 + w)
    | none => .error .badGroupName
  | '?' :: r => modifiers r
  | _ => .ok (.opening (.capture none), 0)

/-! ### Quantifiers -/

/-- What the digits of a bound write. Beyond 64 bits all bounds are the same. -/
def bound (ds : List Char) : Nat := min (Number.digitsValue ds) (Number.wordCount - 1)

/-- The bounds behind an opening brace and the characters they take, the closing brace included. -/
def bounds? (r : List Char) : Option ((Nat × Option Nat) × Nat) :=
  let (least, rest) := Number.spanDigits r
  if least.isEmpty then none
  else
    let n := bound least
    match rest with
    | '}' :: _ => some ((n, some n), least.length + 1)
    | ',' :: rest =>
      let (most, rest) := Number.spanDigits rest
      match rest with
      | '}' :: _ =>
        let most? := if most.isEmpty then none else some (bound most)
        some ((n, most?), least.length + most.length + 2)
      | _ => none
    | _ => none

/-- A quantifier, lazy if a question mark follows the `width` characters it takes already. -/
def quantifierToken (least : Nat) (most : Option Nat) (width : Nat) (r : List Char) : Token × Nat :=
  if (r.drop width).head? == some '?' then (.quantifier ⟨least, most, false⟩, width + 1)
  else (.quantifier ⟨least, most, true⟩, width)

/-! ### All tokens -/

/-- The token that begins at `c`, and how many characters of `r` belong to it. -/
def token (g : Groups) (c : Char) (r : List Char) : Except Fault (Token × Nat) :=
  if c = '\\' then escape g r
  else if c = '[' then classToken g r
  else if c = '(' then openingToken r
  else if c = ')' then .ok (.closing, 0)
  else if c = '|' then .ok (.bar, 0)
  else if c = '.' then .ok (.any, 0)
  else if c = '^' then .ok (.start, 0)
  else if c = '$' then .ok (.stop, 0)
  else if c = '*' then .ok (quantifierToken 0 none 0 r)
  else if c = '+' then .ok (quantifierToken 1 none 0 r)
  else if c = '?' then .ok (quantifierToken 0 (some 1) 0 r)
  else if c = '{' then
    match bounds? r with
    | some ((least, most), w) => .ok (quantifierToken least most w r)
    | none => .ok (.point c.toNat, 0)
  else .ok (.point c.toNat, 0)

/-- The tokens of a text, read with the groups `g` in mind. -/
def tokensWith (g : Groups) : List Char → Except Fault (List Token)
  | [] => .ok []
  | c :: r =>
    match token g c r with
    | .error e => .error e
    | .ok (t, w) =>
      match tokensWith g (r.drop w) with
      | .error e => .error e
      | .ok ts => .ok (t :: ts)
termination_by cs => cs.length
decreasing_by simp only [List.length_drop, List.length_cons]; omega

/-- The groups that capture, in the order in which they open. -/
def groupsOf (ts : List Token) : Groups :=
  ⟨ts.filterMap fun
    | .opening (.capture name) => some name
    | _ => none⟩

def tokens (cs : List Char) : Except Fault (List Token × Groups) := do
  let g := groupsOf (← tokensWith .none cs)
  return (← tokensWith g cs, g)

end Grok.Regex
