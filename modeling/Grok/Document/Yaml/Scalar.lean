import Grok.Document.Yaml.Cursor
import Grok.Text.Hex
/-!
Scalars in YAML: text in quotation marks of either kind, and plain text.
-/
namespace Grok.Document.Yaml

/-- Blanks and line ends between two words of a scalar. -/
structure Gap where
  /-- The blanks in front of the first line end, last first. -/
  blanks : List Char
  broken : Bool
  /-- The first line end, unless a backslash hides it. -/
  first : Option Char
  /-- The line ends behind the first, last first. -/
  later : List Char

namespace Gap

def none : Gap := ⟨[], false, .none, []⟩

/-- A line end behind a backslash. -/
def hidden : Gap := ⟨[], true, .none, []⟩

def isNone (g : Gap) : Bool := !g.broken && g.blanks.isEmpty

def add (g : Gap) (c : Char) : Gap :=
  if isBreak c then
    if g.broken then { g with later := lineEnd c :: g.later } else ⟨[], true, lineEnd c, []⟩
  else if g.broken then g
  else { g with blanks := c :: g.blanks }

/-- What a gap is in the text of a scalar: a single line end is a space. -/
def text (g : Gap) : List Char :=
  if !g.broken then g.blanks.reverse
  else
    match g.first with
    | some '\n' => if g.later.isEmpty then [' '] else g.later.reverse
    | some c => c :: g.later.reverse
    | .none => g.later.reverse

end Gap

/-- The character that `count` digits write, and the characters that the escape takes. -/
def digitEscape? (count : Nat) (cs : List Char) : Option (Char × Nat) :=
  ((Text.hexStart? count cs).filter (·.isValidChar)).map fun n => (Char.ofNat n, count + 1)

/-- What an escape stands for, and the characters that it takes behind the backslash. -/
def escape? (c : Char) (r : List Char) : Option (Char × Nat) :=
  match c with
  | '0' => some ('\x00', 1)
  | 'a' => some ('\x07', 1)
  | 'b' => some ('\x08', 1)
  | 't' | '\t' => some ('\t', 1)
  | 'n' => some ('\n', 1)
  | 'v' => some ('\x0b', 1)
  | 'f' => some ('\x0c', 1)
  | 'r' => some ('\r', 1)
  | 'e' => some ('\x1b', 1)
  | ' ' => some (' ', 1)
  | '"' => some ('"', 1)
  | '/' => some ('/', 1)
  | '\\' => some ('\\', 1)
  | 'N' => some (Char.ofNat 0x85, 1)
  | '_' => some (Char.ofNat 0xA0, 1)
  | 'L' => some (Char.ofNat 0x2028, 1)
  | 'P' => some (Char.ofNat 0x2029, 1)
  | 'x' => digitEscape? 2 r
  | 'u' => digitEscape? 4 r
  | 'U' => digitEscape? 8 r
  | _ => none

/-- Reads quoted text up to its closing mark. `acc` is what has been read, last first, and `g` what
has been skipped since. -/
def quotedFrom (mark : Char) (g : Gap) (acc : List Char) (cur : Cursor) :
    Option (List Char × Cursor) :=
  match _h : cur.rest with
  | [] => none
  | c :: r =>
    if isSpace c || isBreak c then quotedFrom mark (g.add c) acc cur.step
    else if cur.atMark then none
    else
      let acc := g.text.reverse ++ acc
      if c = mark then
        if c = '\'' && r.head? == some '\'' then quotedFrom mark .none (c :: acc) cur.step.step
        else some (acc.reverse, cur.step)
      else if c = '\\' && mark = '"' then
        match r with
        | [] => none
        | d :: r =>
          if isBreak d then quotedFrom mark .hidden acc cur.step.step
          else
            match escape? d r with
            | some (e, w) => quotedFrom mark .none (e :: acc) (cur.advance (w + 1))
            | none => none
      else quotedFrom mark .none (c :: acc) cur.step
termination_by cur.rest.length
decreasing_by
  all_goals
    first
    | exact Cursor.length_step_lt _h
    | exact Nat.lt_of_le_of_lt (Cursor.length_step_le _) (Cursor.length_step_lt _h)
    | simp only [Cursor.advance, List.length_drop, _h, List.length_cons]; omega

def quoted (mark : Char) (cur : Cursor) : Option (List Char × Cursor) :=
  quotedFrom mark .none [] cur.step

def isBracket (c : Char) : Bool :=
  c == ',' || c == '[' || c == ']' || c == '{' || c == '}'

def startsPlain (bracketed : Bool) : List Char → Bool
  | [] => false
  | c :: r =>
    if c = '-' then !r.head?.any isSpace
    else if c = '?' || c = ':' then !bracketed && !endsWord r
    else !(isSpace c || isBreak c || isBracket c || "#&*!|>'\"%@`".toList.contains c)

/-- Plain text, the place behind it, and whether line ends lie between the two. -/
structure Plain where
  text : List Char
  stop : Cursor
  broken : Bool

/-- Reads plain text. Outside brackets its later lines must reach the column `least`. -/
def plainFrom (bracketed : Bool) (least : Nat) (g : Gap) (acc : List Char) (cur : Cursor) :
    Option Plain :=
  match _h : cur.rest with
  | [] => some ⟨acc.reverse, cur, g.broken⟩
  | c :: r =>
    if isSpace c || isBreak c then
      if c = '\t' && g.broken && cur.column < least then none
      else plainFrom bracketed least (g.add c) acc cur.step
    else if !g.isNone && ((!bracketed && cur.column < least) || cur.atMark || c = '#') then
      some ⟨acc.reverse, cur, g.broken⟩
    else if c = ':' && bracketed && r.head?.any (fun d => isBracket d || d == '?') then none
    else if (c = ':' && endsWord r) || (bracketed && isBracket c) then
      some ⟨acc.reverse, cur, g.broken⟩
    else plainFrom bracketed least .none (c :: (g.text.reverse ++ acc)) cur.step
termination_by cur.rest.length
decreasing_by all_goals exact Cursor.length_step_lt _h

end Grok.Document.Yaml
