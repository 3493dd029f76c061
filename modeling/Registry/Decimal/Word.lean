/-!
# Words

The integers that fit a machine word of 64 bits.
-/

namespace Registry.Decimal

/-- How many numbers a word without a sign can hold. -/
def wordCount : Nat := 0x10000000000000000

/-- How many negative numbers a word with a sign can hold. -/
def negativeCount : Nat := 0x8000000000000000

def fitsSigned (z : Int) : Bool := -negativeCount ≤ z && z < negativeCount

def fitsUnsigned (z : Int) : Bool := 0 ≤ z && z < wordCount

end Registry.Decimal
