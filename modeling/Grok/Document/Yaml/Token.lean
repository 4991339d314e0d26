import Grok.Document.Yaml.Scalar
/-!
The tokens of a text in YAML. Blocks show by their columns alone, so tokens for their starts and
ends come out of the columns. That something is a key shows at the colon behind it only, so the
token for a key is put in front of it when the colon is met: a key has to end on the line on which
it starts, within 1024 bytes.
-/
namespace Grok.Document.Yaml

inductive Token where
  | documentStart
  | documentEnd
  | streamEnd
  | blockList
  | blockMap
  | blockEnd
  | listOpen
  | listClose
  | mapOpen
  | mapClose
  | comma
  | dash
  | key
  | value
  | quoted (text : String)
  | plain (text : String)
  deriving DecidableEq, Repr

/-- What may turn out to be a key. -/
structure Candidate where
  /-- In a block that expects a key nothing else may stand. -/
  required : Bool
  /-- The number of the token that begins it. -/
  token : Nat
  offset : Nat
  line : Nat
  column : Nat

structure Scanner where
  cursor : Cursor
  tokens : Array Token
  /-- The candidates, one at most for each open bracket, innermost first, and one for the block. -/
  candidates : List (Option Candidate)
  indent : Int
  outer : List Int
  keyAllowed : Bool
  ended : Bool

namespace Scanner

/-- A mark for the order of bytes in front of the text takes a column. -/
def initial (cs : List Char) : Scanner :=
  let cur := Cursor.start cs
  ⟨if cs.head?.any (·.toNat == 0xFEFF) then cur.step else cur, #[], [none], -1, [], true, false⟩

def isBracketed (s : Scanner) : Bool := 1 < s.candidates.length

def push (s : Scanner) (t : Token) : Scanner := { s with tokens := s.tokens.push t }

def take (s : Scanner) (t : Token) (width : Nat) : Scanner :=
  { s.push t with cursor := s.cursor.advance width }

def insert (s : Scanner) (number : Nat) (t : Token) : Scanner :=
  { s with tokens := s.tokens.insertIdxIfInBounds number t }

/-! ### Candidates -/

/-- Gives up the innermost candidate, which fails if it has to be a key. -/
def dropCandidate (s : Scanner) : Option Scanner :=
  match s.candidates with
  | some k :: ks => if k.required then none else some { s with candidates := none :: ks }
  | _ => some s

/-- Notes that what begins here may be a key. -/
def noteCandidate (s : Scanner) : Option Scanner :=
  if s.keyAllowed then
    s.dropCandidate.map fun s =>
      let cur := s.cursor
      let required := !s.isBracketed && s.indent == cur.column
      { s with
        candidates := some ⟨required, s.tokens.size, cur.offset, cur.line, cur.column⟩ ::
          s.candidates.drop 1 }
  else some s

/-- Gives up the candidates that have become too long. -/
def expire (s : Scanner) : Option Scanner :=
  let check : Option Candidate → Option (Option Candidate)
    | some k =>
      if k.line < s.cursor.line || k.offset + 1024 < s.cursor.offset then
        if k.required then none else some none
      else some (some k)
    | none => some none
  (s.candidates.mapM check).map fun ks => { s with candidates := ks }

/-- The tokens that no later token can be put in front of. -/
def settled (s : Scanner) : List Token :=
  let open? := (s.candidates.filterMap id).map (·.token)
  (s.tokens.extract 0 (open?.foldl min s.tokens.size)).toList

/-! ### Blocks -/

/-- Ends the blocks whose column is greater than `column`. -/
def endBlocks (column indent : Int) (tokens : Array Token) :
    List Int → Array Token × Int × List Int
  | [] => (tokens, indent, [])
  | i :: is =>
    if column < indent then endBlocks column i (tokens.push .blockEnd) is
    else (tokens, indent, i :: is)

def unindent (s : Scanner) (column : Int) : Scanner :=
  if s.isBracketed then s
  else
    let (tokens, indent, outer) := endBlocks column s.indent s.tokens s.outer
    { s with tokens := tokens, indent := indent, outer := outer }

/-- Starts a block in a column behind the one of the innermost block, with a token in front of the
one with a number. -/
def indentTo (s : Scanner) (column number : Nat) (t : Token) : Scanner :=
  if !s.isBracketed && s.indent < column then
    { s.insert number t with indent := column, outer := s.indent :: s.outer }
  else s

/-! ### Tokens -/

def scanEnd (s : Scanner) : Option Scanner :=
  (s.unindent (-1)).dropCandidate.map fun s => { s.push .streamEnd with ended := true }

def scanMark (s : Scanner) (t : Token) : Option Scanner :=
  (s.unindent (-1)).dropCandidate.map fun s => { s.take t 3 with keyAllowed := false }

def scanOpen (s : Scanner) (t : Token) : Option Scanner :=
  s.noteCandidate.map fun s =>
    { s.take t 1 with candidates := none :: s.candidates, keyAllowed := true }

def scanClose (s : Scanner) (t : Token) : Option Scanner :=
  s.dropCandidate.map fun s =>
    { s.take t 1 with
      candidates := if s.isBracketed then s.candidates.drop 1 else s.candidates
      keyAllowed := false }

def scanComma (s : Scanner) : Option Scanner :=
  s.dropCandidate.map fun s => { s.take .comma 1 with keyAllowed := true }

def scanDash (s : Scanner) : Option Scanner :=
  if !s.isBracketed && !s.keyAllowed then none
  else
    (s.indentTo s.cursor.column s.tokens.size .blockList).dropCandidate.map fun s =>
      { s.take .dash 1 with keyAllowed := true }

def scanKey (s : Scanner) : Option Scanner :=
  if !s.isBracketed && !s.keyAllowed then none
  else
    (s.indentTo s.cursor.column s.tokens.size .blockMap).dropCandidate.map fun s =>
      { s.take .key 1 with keyAllowed := !s.isBracketed }

/-- A colon makes the innermost candidate a key. -/
def scanValue (s : Scanner) : Option Scanner :=
  match s.candidates with
  | some k :: ks =>
    let s := (s.insert k.token .key).indentTo k.column k.token .blockMap
    some { s.take .value 1 with candidates := none :: ks, keyAllowed := false }
  | _ =>
    if !s.isBracketed && !s.keyAllowed then none
    else
      let s := s.indentTo s.cursor.column s.tokens.size .blockMap
      some { s.take .value 1 with keyAllowed := !s.isBracketed }

def scanQuoted (s : Scanner) (mark : Char) : Option Scanner := do
  let s ← s.noteCandidate
  let (cs, stop) ← Yaml.quoted mark s.cursor
  return { s.push (.quoted (String.ofList cs)) with cursor := stop, keyAllowed := false }

def scanPlain (s : Scanner) : Option Scanner := do
  let s ← s.noteCandidate
  let p ← plainFrom s.isBracketed (s.indent + 1).toNat .none [] s.cursor
  return { s.push (.plain (String.ofList p.text)) with cursor := p.stop, keyAllowed := p.broken }

def scanHere (s : Scanner) : Option Scanner :=
  let cur := s.cursor
  match cur.rest with
  | [] => s.scanEnd
  | c :: r =>
    let spaced := s.isBracketed || endsWord r
    if cur.column == 0 && isMark '-' cur.rest then s.scanMark .documentStart
    else if cur.column == 0 && isMark '.' cur.rest then s.scanMark .documentEnd
    else if c = '[' then s.scanOpen .listOpen
    else if c = '{' then s.scanOpen .mapOpen
    else if c = ']' then s.scanClose .listClose
    else if c = '}' then s.scanClose .mapClose
    else if c = ',' then s.scanComma
    else if c = '-' && endsWord r then s.scanDash
    else if c = '?' && spaced then s.scanKey
    else if c = ':' && spaced then s.scanValue
    else if c = '\'' || c = '"' then s.scanQuoted c
    else if startsPlain s.isBracketed cur.rest then s.scanPlain
    else none

/-- The next token, with the tokens for blocks that go with it. -/
def scanNext (s : Scanner) : Option Scanner := do
  let (cur, keyAllowed) := skip s.isBracketed s.keyAllowed false s.cursor
  let s ← { s with cursor := cur, keyAllowed := keyAllowed }.expire
  (← (s.unindent cur.column).scanHere).expire

/-- The tokens of a text, up to the first place where it goes wrong. The last argument bounds the
number of tokens that take characters. -/
def run (s : Scanner) : Nat → List Token
  | 0 => s.settled
  | fuel + 1 =>
    match s.scanNext with
    | none => s.settled
    | some s => if s.ended then s.tokens.toList else s.run fuel

end Scanner

/-- The tokens of a text. They end in `streamEnd` unless the text goes wrong. -/
def tokens (cs : List Char) : List Token := (Scanner.initial cs).run (cs.length + 1)

end Grok.Document.Yaml
