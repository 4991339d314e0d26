import Grok.Text.Ranges
import Grok.Text.Ranges.Alphanumeric
import Grok.Text.Ranges.Identifier
/-!
Alphabets over all of Unicode: the letters and numbers that a field name may hold, and the
characters that begin and continue an identifier in an expression.
-/
namespace Grok.Text

/-- ASCII letters, digits and the underscore. -/
def isWord (c : Char) : Bool := c.isAlphanum || c == '_'

/-- Alphabetic characters and numbers of every script. -/
def isAlphanumeric (c : Char) : Bool :=
  if c.toNat < 0x80 then c.isAlphanum else inRanges alphanumericRanges c.toNat

def isIdentifierStart (n : Nat) : Bool :=
  if n < 0x80 then (Char.ofNat n).isAlpha || n == 0x24 || n == 0x5F
  else inRanges identifierStartRanges n

/-- The code points that continue an identifier, the two joiners among them. -/
def isIdentifierPart (n : Nat) : Bool :=
  if n < 0x80 then (Char.ofNat n).isAlphanum || n == 0x24 || n == 0x5F
  else inRanges identifierStartRanges n || inRanges identifierRestRanges n

end Grok.Text
