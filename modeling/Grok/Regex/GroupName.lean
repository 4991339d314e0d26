import Grok.Text.Alphabet
import Grok.Text.Hex
/-!
Names of groups: identifiers, in which any character may be written as an escape.
-/
namespace Grok.Regex

/-- The code point that any number of digits write in braces behind `\u`. -/
def bracedDigits? (cs : List Char) : Option (Nat × Nat) :=
  let ds := cs.takeWhile (· ≠ '}')
  if ds.isEmpty || ds.length = cs.length then none
  else
    ((Text.hexNumber? ds).filter (· ≤ 0x10FFFF)).map fun n => (n, ds.length + 1)

/-- The code point that begins at `c`, and how many of the characters behind `c` belong to it. -/
def namePoint? (c : Char) (r : List Char) : Option (Nat × Nat) :=
  if c = '\\' then
    match r with
    | 'u' :: '{' :: r => (bracedDigits? r).map fun (n, w) => (n, w + 2)
    | 'u' :: r => (Text.escapedPoint? r).map fun (n, w) => (n, w + 1)
    | _ => none
  else some (c.toNat, 0)

/-- Whether a code point may stand in a name, at its start or behind it. -/
def isNamePoint (atStart : Bool) (n : Nat) : Bool :=
  n.isValidChar && if atStart then Text.isIdentifierStart n else Text.isIdentifierPart n

/-- Reads a name up to its closing angle bracket. The count is of the characters that the name and
the bracket take. -/
def groupName? (atStart : Bool) : List Char → Option (List Char × Nat)
  | [] => none
  | c :: r =>
    if c = '>' then if atStart then none else some ([], 1)
    else
      match namePoint? c r with
      | none => none
      | some (n, w) =>
        if isNamePoint atStart n then
          (groupName? false (r.drop w)).map fun (cs, v) => (Char.ofNat n :: cs, 1 + w + v)
        else none
termination_by cs => cs.length
decreasing_by simp only [List.length_drop, List.length_cons]; omega

end Grok.Regex
