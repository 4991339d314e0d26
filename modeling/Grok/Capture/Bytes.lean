import Grok.Capture.Groups
import Grok.Text.Slice
/-!
The scan for named groups over the bytes of an expression. Between the characters that mean
something to it, it goes from byte to byte, and it slices the expression where a group may open.
There is no answer if a slice fails.
-/
namespace Grok.Capture

/-- The characters of a text, each with the byte at which it begins. -/
def charIndices : Nat → List Char → List (Nat × Char)
  | _, [] => []
  | i, c :: r => (i, c) :: charIndices (i + c.utf8Size) r

/-- The bytes of the longest name in front of a text. -/
def nameLength (text : String) : Nat :=
  match (charIndices 0 text.toList).find? (!isGroupChar ·.2) with
  | some (i, _) => i
  | none => text.utf8ByteSize

/-- The name in front of a closing angle bracket, if there is one, and the bytes of the name. -/
def nameBefore? (text : String) : Option (Option (String × Nat)) := do
  let n := nameLength text
  if 0 < n then
    let behind ← Text.sliceFrom? text n
    if behind.toList.head? = some '>' then
      let name ← Text.sliceTo? text n
      return some (name, n)
    else return none
  else return none

/-- The name of the group that opens at a byte, if one does, and the bytes of the name. -/
def groupAt? (s : String) (i : Nat) : Option (Option (String × Nat)) := do
  let opening ← Text.sliceFrom? s i
  if "(?<".toList.isPrefixOf opening.toList then
    let text ← Text.sliceFrom? s (i + 3)
    nameBefore? text
  else return none

def scanBytes (s : String) (inClass : Bool) (i : Nat) : Option (List String) :=
  if h : i < s.utf8ByteSize then
    let b := s.getUTF8Byte ⟨i⟩ h
    if b = '\\'.toUInt8 then scanBytes s inClass (i + 2)
    else if b = '['.toUInt8 && !inClass then scanBytes s true (i + 1)
    else if b = ']'.toUInt8 && inClass then scanBytes s false (i + 1)
    else if b = '('.toUInt8 && !inClass then
      match groupAt? s i with
      | none => none
      | some none => scanBytes s inClass (i + 1)
      | some (some (name, n)) => (scanBytes s inClass (i + 3 + n)).map (name :: ·)
    else scanBytes s inClass (i + 1)
  else some []
termination_by s.utf8ByteSize - i

/-- The names of the groups of an expression, as `namedGroups` gives them, from its bytes. -/
def namedGroupsOfBytes (expression : String) : Option (List String) :=
  scanBytes expression false 0

end Grok.Capture
