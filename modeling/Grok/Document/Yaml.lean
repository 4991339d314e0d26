import Grok.Document
import Grok.Document.Yaml.Token
/-!
Documents in a part of YAML: maps and lists in blocks and in brackets, scalars that are plain or in
either kind of quotation marks, comments, and marks around a document. Anchors, tags, directives and
block scalars are not part of it, nor is a second document.
-/
namespace Grok.Document.Yaml

/-- What has been read, and the tokens behind it unless the text is no document from there. -/
abbrev Scan (α : Type) := α × Option (List Token)

def missing : Document := .plain ""

mutual

/-- Reads a node. In a block it may be a block itself, and as a value of a block even a list whose
dashes stand in the column of the keys. The first argument bounds the depth, and four times the
number of tokens is always enough. -/
def node : Nat → (inBlock isValue : Bool) → List Token → Scan Document
  | 0, _, _, _ => (.broken, none)
  | depth + 1, inBlock, isValue, ts =>
    match ts with
    | .quoted s :: r => (.text s, some r)
    | .plain s :: r => (.plain s, some r)
    | .listOpen :: r => (items depth true r).map .list id
    | .mapOpen :: r => (entries depth true r).map .map id
    | .blockList :: r => if inBlock then (blockItems depth r).map .list id else (.broken, none)
    | .blockMap :: r => if inBlock then (blockEntries depth r).map .map id else (.broken, none)
    | .dash :: _ => if isValue then (looseItems depth ts).map .list id else (.broken, none)
    | _ => (.broken, none)

/-- Reads a node unless a token of `ends` shows that it is missing. -/
def nodeUnless : Nat → (ends : List Token) → (inBlock isValue : Bool) → List Token → Scan Document
  | 0, _, _, _, _ => (.broken, none)
  | depth + 1, ends, inBlock, isValue, ts =>
    if ts.head?.any ends.contains then (missing, some ts) else node depth inBlock isValue ts

/-- Reads what follows a key: a value behind its mark, or nothing. -/
def valueUnless : Nat → (ends : List Token) → (inBlock : Bool) → List Token → Scan Document
  | 0, _, _, _ => (.broken, none)
  | depth + 1, ends, inBlock, ts =>
    match ts with
    | .value :: r => nodeUnless depth ends inBlock inBlock r
    | [] => (.broken, none)
    | _ => (missing, some ts)

/-- The items of a list in brackets. Each but the first stands behind a comma. An item with a key is
a map of one entry. -/
def items : Nat → (isFirst : Bool) → List Token → Scan (List Document)
  | 0, _, _ => ([.broken], none)
  | depth + 1, isFirst, ts =>
    let item (ts : List Token) : Scan (List Document) :=
      match ts with
      | .listClose :: r => ([], some r)
      | .key :: r =>
        match nodeUnless depth [.value, .comma, .listClose] false false r with
        | (k, none) => ([.map [(k, .broken)], .broken], none)
        | (k, some r) =>
          match valueUnless depth [.comma, .listClose] false r with
          | (v, none) => ([.map [(k, v)], .broken], none)
          | (v, some r) => (items depth false r).map (.map [(k, v)] :: ·) id
      | ts =>
        match node depth false false ts with
        | (d, none) => ([d, .broken], none)
        | (d, some r) => (items depth false r).map (d :: ·) id
    match isFirst, ts with
    | true, ts => item ts
    | false, .comma :: r => item r
    | false, .listClose :: r => ([], some r)
    | false, _ => ([.broken], none)

/-- The entries of a map in brackets. Each but the first stands behind a comma. -/
def entries : Nat → (isFirst : Bool) → List Token → Scan (List (Document × Document))
  | 0, _, _ => ([(.broken, .broken)], none)
  | depth + 1, isFirst, ts =>
    let entry (ts : List Token) : Scan (List (Document × Document)) :=
      match ts with
      | .mapClose :: r => ([], some r)
      | .key :: r =>
        match nodeUnless depth [.value, .comma, .mapClose] false false r with
        | (k, none) => ([(k, .broken)], none)
        | (k, some r) =>
          match valueUnless depth [.comma, .mapClose] false r with
          | (v, none) => ([(k, v), (.broken, .broken)], none)
          | (v, some r) => (entries depth false r).map ((k, v) :: ·) id
      | ts =>
        match node depth false false ts with
        | (k, none) => ([(k, .broken)], none)
        | (k, some r) => (entries depth false r).map ((k, missing) :: ·) id
    match isFirst, ts with
    | true, ts => entry ts
    | false, .comma :: r => entry r
    | false, .mapClose :: r => ([], some r)
    | false, _ => ([(.broken, .broken)], none)

def blockItems : Nat → List Token → Scan (List Document)
  | 0, _ => ([.broken], none)
  | depth + 1, ts =>
    match ts with
    | .dash :: r =>
      match nodeUnless depth [.dash, .blockEnd] true false r with
      | (d, none) => ([d, .broken], none)
      | (d, some r) => (blockItems depth r).map (d :: ·) id
    | .blockEnd :: r => ([], some r)
    | _ => ([.broken], none)

def looseItems : Nat → List Token → Scan (List Document)
  | 0, _ => ([.broken], none)
  | depth + 1, ts =>
    match ts with
    | .dash :: r =>
      match nodeUnless depth [.dash, .key, .value, .blockEnd] true false r with
      | (d, none) => ([d, .broken], none)
      | (d, some r) => (looseItems depth r).map (d :: ·) id
    | [] => ([.broken], none)
    | ts => ([], some ts)

def blockEntries : Nat → List Token → Scan (List (Document × Document))
  | 0, _ => ([(.broken, .broken)], none)
  | depth + 1, ts =>
    match ts with
    | .key :: r =>
      match nodeUnless depth [.key, .value, .blockEnd] true true r with
      | (k, none) => ([(k, .broken)], none)
      | (k, some r) =>
        match valueUnless depth [.key, .value, .blockEnd] true r with
        | (v, none) => ([(k, v), (.broken, .broken)], none)
        | (v, some r) => (blockEntries depth r).map ((k, v) :: ·) id
    | .blockEnd :: r => ([], some r)
    | _ => ([(.broken, .broken)], none)

end

def ofTokens (ts : List Token) : Reading :=
  let depth := 4 * ts.length + 4
  let (root, stop) := match ts with
    | [.streamEnd] => (missing, some ts)
    | .documentStart :: r =>
      nodeUnless depth [.documentStart, .documentEnd, .streamEnd] true false r
    | ts => node depth true false ts
  ⟨root, stop.any fun ts => ts.dropWhile (· == .documentEnd) == [.streamEnd]⟩

/-- The document that a text in YAML holds. A text without anything in it holds empty plain text. -/
def read (s : String) : Reading :=
  let cs := s.toList
  if cs.all isAllowed then ofTokens (tokens cs) else ⟨.broken, false⟩

end Grok.Document.Yaml
