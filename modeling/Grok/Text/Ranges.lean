/-!
Classes of characters as ranges of code points, in ascending order.
-/
namespace Grok.Text

def inRanges (rs : List (Nat × Nat)) (n : Nat) : Bool :=
  rs.any fun r => r.1 ≤ n && n ≤ r.2

end Grok.Text
