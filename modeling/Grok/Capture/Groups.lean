import Grok.Text.Alphabet
/-!
The named groups of an expression, found by scanning it rather than by reading its grammar.
-/
namespace Grok.Capture

def isGroupChar (c : Char) : Bool := Text.isAlphanumeric c || c == '_' || c == '$'

/-- The name in front of a closing angle bracket, if there is one. -/
def groupName? (cs : List Char) : Option (List Char) :=
  let name := cs.takeWhile isGroupChar
  if !name.isEmpty && (cs.dropWhile isGroupChar).head? == some '>' then some name else none

/-- Scans for named groups. A backslash hides the next character, brackets enclose a class, and
inside a class nothing opens a group. -/
def scanGroups (inClass : Bool) : List Char → List (List Char)
  | '\\' :: _ :: r => scanGroups inClass r
  | '(' :: '?' :: '<' :: r =>
    if inClass then scanGroups inClass r
    else
      match groupName? r with
      | some name => name :: scanGroups inClass r
      | none => scanGroups inClass r
  | '[' :: r => scanGroups true r
  | ']' :: r => scanGroups false r
  | _ :: r => scanGroups inClass r
  | [] => []

/-- The names of the groups of an expression, in the order in which they open. -/
def namedGroups (expression : List Char) : List String :=
  (scanGroups false expression).map String.ofList

end Grok.Capture
