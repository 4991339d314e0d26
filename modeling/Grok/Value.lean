import Grok.Table
import Grok.Number.Shortest
/-!
Values of a record: the values of JSON, with whole numbers and floating-point numbers apart.
-/
namespace Grok

inductive Value where
  | null
  | bool (b : Bool)
  | int (n : Int)
  | float (x : Number.Binary64)
  | string (s : String)
  | array (vs : List Value)
  /-- Fields in the order of their names. -/
  | object (fields : List (String × Value))
  deriving Inhabited

namespace Value

/-- A floating-point number is written plainly while its first digit stands for 10⁻⁵ to 10¹⁵. -/
def floatLayout : Number.Layout := ⟨-5, 15⟩

/-- The text of a scalar. Nulls and containers have none. -/
def scalarText? : Value → Option String
  | .string s => some s
  | .int n => some (toString n)
  | .float x => some (floatLayout.text x.shortest)
  | .bool b => some (if b then "true" else "false")
  | .null | .array _ | .object _ => none

/-- The texts that a value offers for matching: an array offers each of its scalars. -/
def texts : Value → List String
  | .array vs => vs.filterMap scalarText?
  | v => v.scalarText?.toList

/-- Whether a value holds no usable text. -/
def isBlank : Value → Bool
  | .null => true
  | .string s => s.isEmpty
  | _ => false

end Value

end Grok
