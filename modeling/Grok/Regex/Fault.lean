/-!
What keeps a text from being an expression.
-/
namespace Grok.Regex

inductive Fault where
  /-- A quantifier that follows nothing it could repeat. -/
  | nothingToRepeat
  /-- A quantifier that asks for more than it allows. -/
  | reversedBounds
  /-- A class that spans from a character to an earlier one. -/
  | reversedRange
  | unclosedClass
  | unclosedGroup
  | unopenedGroup
  /-- A question mark opens a group that is of no known kind. -/
  | unknownGroup
  | badGroupName
  | duplicateGroupName
  /-- A reference to a name that no group has. -/
  | unknownGroupName
  | trailingBackslash
  | tooManyGroups
  | tooManyLoops
  deriving DecidableEq, Repr

def Fault.message : Fault → String
  | .nothingToRepeat => "nothing to repeat"
  | .reversedBounds => "quantifier bounds out of order"
  | .reversedRange => "class range out of order"
  | .unclosedClass => "unclosed character class"
  | .unclosedGroup => "unclosed group"
  | .unopenedGroup => "closing parenthesis without a group"
  | .unknownGroup => "unknown kind of group"
  | .badGroupName => "invalid group name"
  | .duplicateGroupName => "duplicate group name"
  | .unknownGroupName => "reference to an unknown group"
  | .trailingBackslash => "backslash at the end"
  | .tooManyGroups => "too many capturing groups"
  | .tooManyLoops => "too many quantifiers"

end Grok.Regex
