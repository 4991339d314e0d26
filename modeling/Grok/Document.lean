import Grok.Number.Binary64
import Grok.Number.Decimal
import Grok.Number.Word
import Grok.Text.Hex
/-!
Documents: what a text of options holds, before anyone knows which options it means. A text that
goes wrong somewhere still is a document up to that place, so that whoever reads it meets the first
thing that is wrong.
-/
namespace Grok

inductive Document where
  | null
  | bool (b : Bool)
  /-- A whole number that is not negative. -/
  | count (n : Nat)
  | number
  | text (s : String)
  /-- Text without quotation marks. Its type is the one that is asked for. -/
  | plain (s : String)
  | list (items : List Document)
  | map (entries : List (Document × Document))
  /-- The place from which on the text is no document. -/
  | broken
  deriving Inhabited

/-- A document, and whether the text holds it and nothing else. -/
structure Reading where
  root : Document
  complete : Bool

namespace Document

/-! ### Text without quotation marks -/

def isPlainNull (s : String) : Bool := ["", "~", "null", "Null", "NULL"].contains s

def plainBool? (s : String) : Option Bool :=
  if ["true", "True", "TRUE"].contains s then some true
  else if ["false", "False", "FALSE"].contains s then some false
  else none

/-- Digits that are not a number because they start with a zero. -/
def isPadded (cs : List Char) : Bool :=
  match cs with
  | '0' :: r => !r.isEmpty && r.all Char.isDigit
  | _ => false

/-- The number that some digits write to a base. -/
def digits? (base : Nat) (cs : List Char) : Option Nat :=
  if cs.isEmpty then none
  else
    cs.foldlM (fun n c => (Text.hexDigit? c).bind fun d =>
      if d < base then some (base * n + d) else none) 0

/-- A number without a sign: hexadecimal, octal or binary behind a mark, otherwise decimal. -/
def magnitude? (cs : List Char) : Option Nat :=
  match cs with
  | '0' :: 'x' :: r => digits? 16 r
  | '0' :: 'o' :: r => digits? 8 r
  | '0' :: 'b' :: r => digits? 2 r
  | _ => if isPadded cs then none else digits? 10 cs

/-- A whole number below 2⁶⁴, perhaps with a plus. -/
def plainCount? (s : String) : Option Nat :=
  let cs := match s.toList with
    | '+' :: r => r
    | cs => cs
  (magnitude? cs).filter (· < Number.wordCount)

/-- Whether plain text writes a whole number that 128 bits hold, with a sign or without. -/
def isPlainInteger (s : String) : Bool :=
  let (negative, cs) := Number.sign s.toList
  let limit := if negative then 170141183460469231731687303715884105729
    else 340282366920938463463374607431768211456
  (magnitude? cs).any (· < limit)

def isPlainNumber (s : String) : Bool :=
  let cs := (Number.sign s.toList).2
  isPlainInteger s || [".inf", ".Inf", ".INF"].contains (String.ofList cs) ||
    [".nan", ".NaN", ".NAN"].contains s ||
    (!isPadded cs && ((Number.Decimal.ofText? s.toList).bind Number.Binary64.ofDecimal).isSome)

/-- Plain text that is text even if no type is asked for. -/
def isPlainText (s : String) : Bool :=
  !isPlainNull s && (plainBool? s).isNone && !isPlainNumber s

/-! ### Asking for a type -/

/-- Plain text is text whatever it looks like, if text is asked for. -/
def asText? : Document → Option String
  | text s | plain s => some s
  | _ => none

def asBool? : Document → Option Bool
  | bool b => some b
  | plain s => plainBool? s
  | _ => none

def asCount? : Document → Option Nat
  | count n => if n < Number.wordCount then some n else none
  | plain s => plainCount? s
  | _ => none

/-- A list of texts. Nothing at all is an empty list. -/
def asTexts? : Document → Option (List String)
  | list ds => ds.mapM asText?
  | plain s => if s.isEmpty then some [] else none
  | _ => none

/-- Text where no type is asked for, so that plain text which looks like a number is none. -/
def asUntypedText? : Document → Option String
  | text s => some s
  | plain s => if isPlainText s then some s else none
  | _ => none

/-- One text or a list of texts. -/
def asOneOrMany? : Document → Option (List String)
  | list ds => ds.mapM asUntypedText?
  | d => d.asUntypedText?.map ([·])

/-- The entries of a map. Nothing at all is an empty map. -/
def asEntries? : Document → Option (List (Document × Document))
  | map es => some es
  | plain s => if s.isEmpty then some [] else none
  | _ => none

end Document

end Grok
