/-!
Slices of a text between its bytes in UTF-8. No slice cuts through a character or goes beyond the
text.
-/
namespace Grok.Text

/-- The text from a byte on. -/
def sliceFrom? (s : String) (i : Nat) : Option String :=
  (s.pos? ⟨i⟩).map fun p => (s.sliceFrom p).copy

/-- The text in front of a byte. -/
def sliceTo? (s : String) (i : Nat) : Option String :=
  (s.pos? ⟨i⟩).map fun p => (s.sliceTo p).copy

/-- The last place at or in front of a byte where the text can be sliced. The search goes back from
byte to byte, and there is no answer if it would go on in front of the text. -/
def lastBoundary? (s : String) (i : Nat) : Option Nat :=
  if (⟨i⟩ : String.Pos.Raw).isValid s then some i
  else
    match i with
    | 0 => none
    | i + 1 => lastBoundary? s i

end Grok.Text
