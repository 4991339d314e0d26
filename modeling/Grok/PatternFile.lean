import Grok.Text.Space
import Grok.Text.Lines
/-!
Lines of a pattern file: a name, blanks, and the pattern itself. The layout of a line is a list of
parts, and a line is divided into them.
-/
namespace Grok.PatternFile

/-- A part of a line, with the characters that it admits. -/
inductive Part where
  | one (admits : Char → Bool)
  /-- Any number of characters, as many as possible. -/
  | most (admits : Char → Bool)
  /-- Any number of characters, as few as possible. -/
  | fewest (admits : Char → Bool)

variable {α : Type}

/-- The longest run of admitted characters behind which the rest can be read. -/
def longest (admits : Char → Bool) (rest : List Char → Option α) :
    List Char → Option (List Char × α)
  | [] => (rest []).map ([], ·)
  | c :: r =>
    let longer := if admits c then longest admits rest r else none
    (longer.map fun (run, a) => (c :: run, a)).orElse fun _ => (rest (c :: r)).map ([], ·)

/-- The shortest run of admitted characters behind which the rest can be read. -/
def shortest (admits : Char → Bool) (rest : List Char → Option α) :
    List Char → Option (List Char × α)
  | [] => (rest []).map ([], ·)
  | c :: r =>
    ((rest (c :: r)).map ([], ·)).orElse fun _ =>
      if admits c then (shortest admits rest r).map fun (run, a) => (c :: run, a) else none

/-- Divides a whole text into parts. Where there are several ways, the parts in front decide. -/
def divide : List Part → List Char → Option (List (List Char))
  | [], cs => if cs.isEmpty then some [] else none
  | .one admits :: ps, cs => match cs with
    | [] => none
    | c :: r => if admits c then (divide ps r).map ([c] :: ·) else none
  | .most admits :: ps, cs => (longest admits (divide ps) cs).map fun (run, rest) => run :: rest
  | .fewest admits :: ps, cs => (shortest admits (divide ps) cs).map fun (run, rest) => run :: rest

def isGap (c : Char) : Bool := c == ' ' || c == '\t'

/-- White space, a name that does not begin with a hash sign, blanks, the pattern, and what ends a
line. -/
def layout : List Part :=
  [.most Text.isBlank, .one fun c => !Text.isBlank c && c != '#', .most (!Text.isBlank ·),
    .one isGap, .most isGap, .fewest (· != '\n'), .most fun c => c == '\r' || c == '\n']

/-- The definition on a line, if it has a name and a pattern. Comments begin with a hash sign. -/
def definition? (line : List Char) : Option (String × String) :=
  let text := Text.trimStart line
  if text.isEmpty || text.head? == some '#' then none
  else
    match divide layout line with
    | some [_, first, name, _, _, body, _] =>
      if body.isEmpty then none else some (String.ofList (first ++ name), String.ofList body)
    | _ => none

def definitions (text : String) : List (String × String) :=
  (Text.lines text.toList).filterMap definition?

end Grok.PatternFile
