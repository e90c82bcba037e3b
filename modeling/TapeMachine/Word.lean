/-!
# Machine words

Numbers that count cells or instructions have to fit into a machine word of sixty-four bits with a
sign.  Some that do not still fit into a machine word without one.
-/

set_option autoImplicit false

namespace TapeMachine.Word

/-- The first number that is too big for a machine word. -/
def limit : Int := 9223372036854775808

def fits (value : Int) : Bool := -limit ≤ value && value < limit

def unsignedLimit : Int := 18446744073709551616

/-- Whether a number that is not negative fits into a machine word only when the word has no
sign. -/
def needsUnsigned (value : Int) : Bool := limit ≤ value && value < unsignedLimit

end TapeMachine.Word
