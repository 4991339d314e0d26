/-!
Places in a text in YAML, and the characters that separate its words.
-/
namespace Grok.Document.Yaml

def isAllowed (c : Char) : Bool :=
  let n := c.toNat
  n == 0x09 || n == 0x0A || n == 0x0D || (0x20 ≤ n && n ≤ 0x7E) || n == 0x85 ||
    (0xA0 ≤ n && n ≤ 0xD7FF) || (0xE000 ≤ n && n ≤ 0xFFFD) || 0x10000 ≤ n

def isSpace (c : Char) : Bool := c == ' ' || c == '\t'

/-- The characters that end a line, the separators of lines and of paragraphs among them. -/
def isBreak (c : Char) : Bool :=
  c == '\n' || c == '\r' || c.toNat == 0x85 || c.toNat == 0x2028 || c.toNat == 0x2029

/-- What the end of a line is inside a scalar. The two separators stay as they are. -/
def lineEnd (c : Char) : Char := if c.toNat == 0x2028 || c.toNat == 0x2029 then c else '\n'

/-- Whether a blank, a line end or nothing comes next. -/
def endsWord : List Char → Bool
  | [] => true
  | c :: _ => isSpace c || isBreak c

/-- Whether three equal characters stand here as a word. At the start of a line such a word marks
off documents. -/
def isMark (c : Char) (cs : List Char) : Bool := cs.take 3 == [c, c, c] && endsWord (cs.drop 3)

structure Cursor where
  rest : List Char
  offset : Nat
  line : Nat
  column : Nat

namespace Cursor

def start (cs : List Char) : Cursor := ⟨cs, 0, 0, 0⟩

def step (cur : Cursor) : Cursor :=
  match cur.rest with
  | [] => cur
  | '\r' :: '\n' :: r => ⟨r, cur.offset + 2, cur.line + 1, 0⟩
  | c :: r =>
    if isBreak c then ⟨r, cur.offset + c.utf8Size, cur.line + 1, 0⟩
    else ⟨r, cur.offset + c.utf8Size, cur.line, cur.column + 1⟩

def advance (n : Nat) (cur : Cursor) : Cursor :=
  ⟨cur.rest.drop n, cur.offset + n, cur.line, cur.column + n⟩

def atMark (cur : Cursor) : Bool :=
  cur.column == 0 && (isMark '-' cur.rest || isMark '.' cur.rest)

theorem length_step_lt {cur : Cursor} {c : Char} {r : List Char} (h : cur.rest = c :: r) :
    cur.step.rest.length < cur.rest.length := by
  unfold step
  split
  · simp_all
  · simp_all only [List.cons.injEq]
    obtain ⟨rfl, rfl⟩ := h
    simp only [List.length_cons]
    omega
  · simp_all only [List.cons.injEq]
    obtain ⟨rfl, rfl⟩ := h
    split <;> simp

theorem length_step_le (cur : Cursor) : cur.step.rest.length ≤ cur.rest.length := by
  cases h : cur.rest with
  | nil => simp [step, h]
  | cons c r => exact h ▸ Nat.le_of_lt (length_step_lt h)

end Cursor

/-- Skips blanks, comments and line ends. In a block a line end allows a key to follow, and where a
key may follow no tab is skipped. The flag says whether one may follow the place reached. -/
def skip (bracketed keyAllowed comment : Bool) (cur : Cursor) : Cursor × Bool :=
  match _h : cur.rest with
  | [] => (cur, keyAllowed)
  | c :: _ =>
    if isBreak c then skip bracketed (keyAllowed || !bracketed) false cur.step
    else if comment || c == '#' then skip bracketed keyAllowed true cur.step
    else if c == ' ' || (c == '\t' && (bracketed || !keyAllowed)) then
      skip bracketed keyAllowed false cur.step
    else (cur, keyAllowed)
termination_by cur.rest.length
decreasing_by all_goals exact Cursor.length_step_lt _h

end Grok.Document.Yaml
