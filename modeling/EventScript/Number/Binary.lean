import EventScript.Number.Power

/-!
Double-precision numbers by their bits. Every finite double is a whole number of units of
2 ^ -1074, so the operations here that round or compare do so exactly, in whole numbers: taking a
double apart, finding the double nearest to a fraction, rounding to a whole number, and the total
order. Numbers that are not a number differ by their bits too, and have a sign.
-/

namespace EventScript

@[ext]
structure Double where
  bits : UInt64
  deriving DecidableEq

namespace Number

def unitsPerOne : Nat := twoTo 1074

/-- What the bits of a double stand for. A finite double is `mantissa * twoTo power` units, where
`mantissa < twoTo 53`. -/
inductive Shape where
  | notANumber
  | infinite (negative : Bool)
  | finite (negative : Bool) (mantissa power : Nat)
  deriving DecidableEq, Repr

def Shape.ofPattern (pattern : Nat) : Shape :=
  let negative := decide (twoTo 63 ≤ pattern)
  let exponent := pattern / twoTo 52 % twoTo 11
  let fraction := pattern % twoTo 52
  if exponent = 2047 then
    if fraction = 0 then .infinite negative else .notANumber
  else if exponent = 0 then .finite negative fraction 0
  else .finite negative (twoTo 52 + fraction) (exponent - 1)

def shape (number : Double) : Shape :=
  Shape.ofPattern number.bits.toNat

def ofMagnitude (negative : Bool) (magnitude : Nat) : Double :=
  ⟨UInt64.ofNat (if negative then twoTo 63 + magnitude else magnitude)⟩

def infiniteMagnitude : Nat := 2047 * twoTo 52

def infinity (negative : Bool) : Double := ofMagnitude negative infiniteMagnitude

def notANumber : Double := ofMagnitude false (infiniteMagnitude + twoTo 51)

def zero (negative : Bool) : Double := ofMagnitude negative 0

def roundedQuotient (dividend divisor : Nat) : Nat :=
  let quotient := dividend / divisor
  let doubled := 2 * (dividend % divisor)
  if divisor < doubled ∨ (doubled = divisor ∧ quotient % 2 = 1) then quotient + 1 else quotient

/-- The double nearest to `numerator / denominator`, ties to the even mantissa. A mantissa that
rounds up to a power of two carries into the exponent bits by itself. -/
def ofRatio (negative : Bool) (numerator denominator : Nat) : Double :=
  let units := numerator * unitsPerOne
  let power := (units / denominator).log2 - 52
  let mantissa := roundedQuotient units (denominator * twoTo power)
  ofMagnitude negative (min (power * twoTo 52 + mantissa) infiniteMagnitude)

def ofNat (number : Nat) : Double := ofRatio false number 1

def ofInt (number : Int) : Double := ofRatio (decide (number < 0)) number.natAbs 1

def isNotANumber (number : Double) : Bool := shape number == .notANumber

def isZero (number : Double) : Bool :=
  match shape number with
  | .finite _ mantissa _ => mantissa == 0
  | _ => false

def isInfinite (number : Double) : Bool :=
  match shape number with
  | .infinite _ => true
  | _ => false

def isFinite (number : Double) : Bool :=
  match shape number with
  | .finite .. => true
  | _ => false

def isNegative (number : Double) : Bool := decide (twoTo 63 ≤ number.bits.toNat)

def equal (left right : Double) : Bool :=
  !isNotANumber left && !isNotANumber right &&
    (left.bits == right.bits || (isZero left && isZero right))

/-- The place of a double in the total order: negative ones below positive ones and the negative
zero below the positive one. What is not a number stands beyond the infinity of its sign. -/
def orderKey (number : Double) : Int :=
  let pattern := number.bits.toNat
  if twoTo 63 ≤ pattern then -((pattern - twoTo 63 : Nat) : Int) - 1 else (pattern : Int)

def compareTotal (left right : Double) : Ordering := compare (orderKey left) (orderKey right)

def wholePart (mantissa power : Nat) : Nat × Bool :=
  if power ≥ 1074 then (mantissa <<< (power - 1074), false)
  else
    let cut := 1074 - power
    (mantissa >>> cut, mantissa % twoTo cut != 0)

def whole? (number : Double) : Option Int :=
  match shape number with
  | .finite negative mantissa power =>
    match wholePart mantissa power with
    | (whole, false) => some (if negative then -(whole : Int) else whole)
    | (_, true) => none
  | _ => none

def leastInteger : Int := -9223372036854775808

def greatestInteger : Int := 9223372036854775807

def clampInteger (number : Int) : Int := max leastInteger (min greatestInteger number)

/-- The whole part as a 64-bit signed integer: out-of-range numbers go to the nearest end of the
range, and not a number becomes zero. -/
def toInteger (number : Double) : Int :=
  match shape number with
  | .notANumber => 0
  | .infinite negative => if negative then leastInteger else greatestInteger
  | .finite negative mantissa power =>
    let whole := (wholePart mantissa power).1
    clampInteger (if negative then -(whole : Int) else whole)

/-- Rounds a finite double to a whole number; `up` says whether a cut-off part moves the magnitude
to the next whole number for this sign. The sign stays, also on zero. -/
def roundWhole (up : Bool → Bool) (number : Double) : Double :=
  match shape number with
  | .finite negative mantissa power =>
    match wholePart mantissa power with
    | (whole, true) => ofRatio negative (if up negative then whole + 1 else whole) 1
    | (_, false) => number
  | _ => number

def floor (number : Double) : Double := roundWhole (fun negative => negative) number

def ceiling (number : Double) : Double := roundWhole (fun negative => !negative) number

end Number

end EventScript
