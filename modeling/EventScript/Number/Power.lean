/-!
Powers of the two bases in which numbers are held and written.
-/

namespace EventScript.Number

def twoTo (exponent : Nat) : Nat := Nat.pow 2 exponent

def tenTo (exponent : Nat) : Nat := Nat.pow 10 exponent

end EventScript.Number
