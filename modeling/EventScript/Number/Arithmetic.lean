import EventScript.Number.Binary

/-!
Arithmetic on doubles. It is that of the processor, down to the bits of what is not a number: such
an operand goes through an operation unchanged.
-/

namespace EventScript

namespace Number

/-- What an operation gives that has no result. Processors differ in its sign; here it is negative,
as x86-64 has it. -/
def invalid : Double := ofMagnitude true (infiniteMagnitude + twoTo 51)

def magnitude (number : Double) : Nat := number.bits.toNat % twoTo 63

def absolute (number : Double) : Double := ofMagnitude false (magnitude number)

end Number

namespace Double

def toFloat (number : Double) : Float := Float.ofBits number.bits

/-- The result of an operation. If that is not a number, the first operand counts that is none. -/
def ofFloat (result : Float) (operands : List Double) : Double :=
  if result.isNaN then (operands.find? Number.isNotANumber).getD Number.invalid
  else ⟨result.toBits⟩

def map (operation : Float → Float) (number : Double) : Double :=
  ofFloat (operation number.toFloat) [number]

def zipWith (operation : Float → Float → Float) (left right : Double) : Double :=
  ofFloat (operation left.toFloat right.toFloat) [left, right]

instance : Add Double := ⟨zipWith (· + ·)⟩

instance : Sub Double := ⟨zipWith (· - ·)⟩

instance : Mul Double := ⟨zipWith (· * ·)⟩

instance : Div Double := ⟨zipWith (· / ·)⟩

/-- Only the sign bit changes, also of what is not a number. -/
instance : Neg Double :=
  ⟨fun number => Number.ofMagnitude (!Number.isNegative number) (Number.magnitude number)⟩

instance (number : Nat) : OfNat Double number := ⟨Number.ofNat number⟩

instance : OfScientific Double :=
  ⟨fun digits below places => ofFloat (OfScientific.ofScientific digits below places) []⟩

end Double

namespace Number

/-- The remainder of a division towards zero: exact, with the sign of the dividend. -/
def remainder (dividend divisor : Double) : Double :=
  match shape dividend, shape divisor with
  | .notANumber, _ => dividend
  | _, .notANumber => divisor
  | .finite negative mantissa power, .finite _ divisorMantissa divisorPower =>
    let units := divisorMantissa <<< divisorPower
    if units = 0 then invalid
    else ofRatio negative ((mantissa <<< power) % units) unitsPerOne
  | .finite .., .infinite _ => dividend
  | .infinite _, _ => invalid

/-- The smaller number; a number wins over not a number, and the first wins a tie. -/
def lesser (left right : Double) : Double :=
  if isNotANumber left then right else if right.toFloat < left.toFloat then right else left

def greater (left right : Double) : Double :=
  if isNotANumber left then right else if left.toFloat < right.toFloat then right else left

end Number

end EventScript
