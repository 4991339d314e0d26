import Grok.Document
/-!
Documents in JSON.
-/
namespace Grok.Document.Json

/-- What has been read, and the text behind it unless that text is no document. -/
abbrev Scan (α : Type) := α × Option (List Char)

def isBlank (c : Char) : Bool := c == ' ' || c == '\t' || c == '\n' || c == '\r'

def skip (cs : List Char) : List Char := cs.dropWhile isBlank

/-- The character that an escape stands for, and the characters that it takes behind the
backslash. -/
def escape? : List Char → Option (Char × Nat)
  | '"' :: _ => some ('"', 1)
  | '\\' :: _ => some ('\\', 1)
  | '/' :: _ => some ('/', 1)
  | 'b' :: _ => some ('\x08', 1)
  | 'f' :: _ => some ('\x0c', 1)
  | 'n' :: _ => some ('\n', 1)
  | 'r' :: _ => some ('\r', 1)
  | 't' :: _ => some ('\t', 1)
  | 'u' :: r =>
    ((Text.escapedPoint? r).filter (·.1.isValidChar)).map fun (n, w) => (Char.ofNat n, w + 1)
  | _ => none

/-- The rest of a text behind its opening quotation mark. -/
def textRest? : List Char → Option (List Char × List Char)
  | [] => none
  | c :: r =>
    if c = '"' then some ([], r)
    else if c = '\\' then
      match escape? r with
      | some (d, w) => (textRest? (r.drop w)).map fun (cs, rest) => (d :: cs, rest)
      | none => none
    else if c.toNat < 0x20 then none
    else (textRest? r).map fun (cs, rest) => (c :: cs, rest)
termination_by cs => cs.length
decreasing_by all_goals simp only [List.length_drop, List.length_cons]; omega

def text (cs : List Char) : Scan Document :=
  match textRest? cs with
  | some (s, rest) => (.text (String.ofList s), some rest)
  | none => (.broken, none)

def isNumberChar (c : Char) : Bool :=
  c.isDigit || c == '.' || c == 'e' || c == 'E' || c == '+' || c == '-'

/-- A number. A zero is a number of its own. -/
def number (cs : List Char) : Scan Document :=
  let ds := match cs with
    | '0' :: _ => ['0']
    | cs => cs.takeWhile Char.isDigit
  let rest := cs.drop ds.length
  if ds.isEmpty || rest.head?.any (fun c => c == '.' || c == 'e' || c == 'E') then
    (.number, some (rest.dropWhile isNumberChar))
  else (.count (Number.digitsValue ds), some rest)

mutual

/-- Reads a document. The first argument bounds the depth, and twice the length of the text is
always enough. -/
def value : Nat → List Char → Scan Document
  | 0, _ => (.broken, none)
  | depth + 1, cs =>
    match skip cs with
    | '{' :: r =>
      match skip r with
      | '}' :: r => (.map [], some r)
      | r => ((entries depth r).map .map id)
    | '[' :: r =>
      match skip r with
      | ']' :: r => (.list [], some r)
      | r => ((items depth r).map .list id)
    | '"' :: r => text r
    | 't' :: 'r' :: 'u' :: 'e' :: r => (.bool true, some r)
    | 'f' :: 'a' :: 'l' :: 's' :: 'e' :: r => (.bool false, some r)
    | 'n' :: 'u' :: 'l' :: 'l' :: r => (.null, some r)
    | c :: r => if c.isDigit || c == '-' then number (c :: r) else (.broken, none)
    | [] => (.broken, none)

def items : Nat → List Char → Scan (List Document)
  | 0, _ => ([.broken], none)
  | depth + 1, cs =>
    match value depth cs with
    | (d, none) => ([d, .broken], none)
    | (d, some r) =>
      match skip r with
      | ',' :: r => (items depth r).map (d :: ·) id
      | ']' :: r => ([d], some r)
      | _ => ([d, .broken], none)

def entries : Nat → List Char → Scan (List (Document × Document))
  | 0, _ => ([(.broken, .broken)], none)
  | depth + 1, cs =>
    match skip cs with
    | '"' :: r =>
      match text r with
      | (k, none) => ([(k, .broken)], none)
      | (k, some r) =>
        match skip r with
        | ':' :: r =>
          match value depth r with
          | (d, none) => ([(k, d), (.broken, .broken)], none)
          | (d, some r) =>
            match skip r with
            | ',' :: r => (entries depth r).map ((k, d) :: ·) id
            | '}' :: r => ([(k, d)], some r)
            | _ => ([(k, d), (.broken, .broken)], none)
        | _ => ([(k, .broken)], none)
    | _ => ([(.broken, .broken)], none)

end

def read (s : String) : Reading :=
  let cs := s.toList
  let (root, rest) := value (2 * cs.length + 2) cs
  ⟨root, rest.any fun r => (skip r).isEmpty⟩

end Grok.Document.Json
