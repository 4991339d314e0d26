import Grok.Coercion
/-!
Captures: which group of an expression feeds which field, and what a match put into it.
-/
namespace Grok

/-- A named group of an expression and the field that it feeds. -/
structure CaptureField where
  group : String
  field : String
  coercion : Coercion
  deriving DecidableEq, Repr

structure Capture where
  field : String
  /-- The value, or nothing if the group took no part in the match. -/
  value : Option Value

namespace Capture

/-- Whether a capture has no usable text: no part in the match, empty text or a failed
coercion. -/
def isEmpty (c : Capture) : Bool :=
  match c.value with
  | none => true
  | some v => v.isBlank

end Capture

end Grok
