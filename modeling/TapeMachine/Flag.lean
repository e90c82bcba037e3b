/-!
# Flags

A flag is given as a truth value or as a number.  Zero is off and every other number is on; a flag
is shown the way it was given.
-/

set_option autoImplicit false

namespace TapeMachine

/-- A setting that is on or off, as it was given. -/
inductive Flag where
  | truth (value : Bool)
  | number (value : Int)
  deriving DecidableEq, Repr

namespace Flag

def isOn : Flag → Bool
  | truth value => value
  | number value => value != 0

def text : Flag → String
  | truth true => "True"
  | truth false => "False"
  | number value => toString value

end Flag

end TapeMachine
