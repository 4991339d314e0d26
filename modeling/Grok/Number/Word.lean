/-!
The whole numbers that 64 bits hold.
-/
namespace Grok.Number

def wordCount : Nat := 18446744073709551616

/-- Whether 64 bits with a sign hold a number. -/
def fitsSigned (n : Int) : Bool := -9223372036854775808 ≤ n && n < 9223372036854775808

/-- Whether 64 bits without a sign hold a number. -/
def fitsUnsigned (n : Int) : Bool := 0 ≤ n && n < (wordCount : Int)

end Grok.Number
