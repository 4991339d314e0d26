import Grok.Value
import Grok.Number.Word
import Grok.Error
import Grok.Text.Space
/-!
Coercions of captured text.
-/
namespace Grok

inductive Coercion where
  | text
  | int
  | float
  deriving DecidableEq, Repr

namespace Coercion

def ofType (type field : String) : Except Error Coercion :=
  if type = "int" then .ok .int
  else if type = "float" then .ok .float
  else .error (.unknownCoercion type field)

/-- A whole number that fits into 64 bits with a sign. -/
def signed? (cs : List Char) : Option Int :=
  (Number.integer? cs).filter Number.fitsSigned

/-- A whole number that fits into 64 bits without a sign, and is written without a minus. -/
def unsigned? (cs : List Char) : Option Int :=
  if cs.head? == some '-' then none
  else (Number.integer? cs).filter Number.fitsUnsigned

def float? (cs : List Char) : Option Number.Binary64 :=
  (Number.Decimal.ofText? cs).bind Number.Binary64.ofDecimal

/-- The whole part of a decimal text, read as a floating-point number first. -/
def truncated? (cs : List Char) : Option Int :=
  ((float? cs).map Number.Binary64.truncate).filter Number.fitsSigned

/-- Whole numbers are read exactly where they fit, anything else by way of a floating-point
number. -/
def integer (cs : List Char) : Value :=
  match (signed? cs).orElse (fun _ => unsigned? cs) |>.orElse (fun _ => truncated? cs) with
  | some n => .int n
  | none => .null

/-- The value of a captured text. Text that cannot be converted becomes null. -/
def apply (c : Coercion) (text : String) : Value :=
  match c with
  | .text => .string text
  | .int => integer (Text.trim text.toList)
  | .float =>
    match float? (Text.trim text.toList) with
    | some x => .float x
    | none => .null

end Coercion

end Grok
