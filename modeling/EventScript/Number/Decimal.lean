import EventScript.Number.Binary

/-!
Numbers in decimal. `shortest` finds the fewest significant digits that still read back as the same
double, and among those the ones nearest to it; `ofDecimal` finds the double nearest to a decimal.
Both compare exact whole numbers. A format then only decides how the digits are laid out.
-/

namespace EventScript.Number

def digitCount (number : Nat) : Nat :=
  if number = 0 then 0 else (Nat.toDigits 10 number).length

structure Decimal where
  digits : Nat
  exponent : Int
  deriving DecidableEq, Repr

/-- The exponent of the leading digit:
10 ^ leading ≤ numerator / denominator < 10 ^ (leading + 1). -/
def leadingExponent (numerator denominator : Nat) : Int :=
  if denominator ≤ numerator then (digitCount (numerator / denominator) : Int) - 1
  else -(digitCount ((denominator + numerator - 1) / numerator - 1) : Int)

/-- The quarter units between which every real number rounds to `mantissa * twoTo power` units:
below a power of two the gap to the next double is half as wide. -/
def roundingInterval (mantissa power : Nat) : Nat × Nat :=
  let below := if mantissa = twoTo 52 ∧ 0 < power then 1 else 2
  (4 * mantissa - below, 4 * mantissa + 2)

/-- Which of two equally near decimals a format writes: the one farther from zero, or the one whose
last digit is even. -/
inductive Tie where
  | up
  | even
  deriving DecidableEq, Repr

/-- Whether the lower of two neighbouring decimals is written, `above` being what the value has more
than the lower one on a grid of steps `step` wide. -/
def Tie.prefersLower (tie : Tie) (lower above step : Nat) : Bool :=
  2 * above < step || (2 * above == step && tie == .even && lower % 2 == 0)

/-- Whether a point of a decimal grid reads back as the double, one quarter unit being `quarter` and
one step of the grid `step`. The ends of the interval round to an even mantissa only. -/
def readsBack (mantissa power quarter step grid : Nat) : Bool :=
  let (low, high) := roundingInterval mantissa power
  if mantissa % 2 = 0 then low * quarter ≤ grid * step && grid * step ≤ high * quarter
  else low * quarter < grid * step && grid * step < high * quarter

/-- The decimal with `count` significant digits that reads back as the double, if there is one: of
the two neighbours on the grid of such decimals the nearer one, and on a tie the one that `tie`
names. -/
def shortestWith (tie : Tie) (mantissa power : Nat) (leading : Int) (count : Nat) :
    Option Decimal :=
  let spacing : Int := leading - count + 1
  -- Both sides of every comparison are scaled to whole numbers: one quarter unit is `quarter`, and
  -- one step of the decimal grid is `step`.
  let quarter := twoTo power * tenTo (-spacing).toNat
  let step := 4 * unitsPerOne * tenTo spacing.toNat
  let value := 4 * mantissa * quarter
  let reads := readsBack mantissa power quarter step
  let lower := value / step
  let upper := lower + 1
  match reads lower, reads upper with
  | true, true =>
    if tie.prefersLower lower (value % step) step then some ⟨lower, spacing⟩
    else some ⟨upper, spacing⟩
  | true, false => some ⟨lower, spacing⟩
  | false, true => some ⟨upper, spacing⟩
  | false, false => none

/-- The shortest decimal that reads back as `mantissa * twoTo power` units, for a mantissa other
than zero. Seventeen digits always suffice. -/
def shortest (tie : Tie) (mantissa power : Nat) : Decimal :=
  let leading := leadingExponent (mantissa * twoTo power) unitsPerOne
  ((List.range 17).findSome? fun fewer => shortestWith tie mantissa power leading (fewer + 1)).getD
    ⟨mantissa, 0⟩

def Decimal.significant (decimal : Decimal) : List Char × Int :=
  let all := Nat.toDigits 10 decimal.digits
  let kept := (all.reverse.dropWhile (· == '0')).reverse
  (kept, decimal.exponent + all.length - 1)

def positional (digits : List Char) (leading : Int) (whole : List Char) : List Char :=
  if leading < 0 then
    '0' :: '.' :: (List.replicate ((-leading).toNat - 1) '0' ++ digits)
  else
    let places := leading.toNat + 1
    if digits.length ≤ places then digits ++ List.replicate (places - digits.length) '0' ++ whole
    else digits.take places ++ '.' :: digits.drop places

/-- The double nearest to `digits * 10 ^ exponent`. Exponents far outside the range of doubles are
answered without computing the power. -/
def ofDecimal (negative : Bool) (digits : Nat) (exponent : Int) : Double :=
  let size := exponent + digitCount digits
  if digits = 0 ∨ size < -330 then zero negative
  else if 310 < size then infinity negative
  else ofRatio negative (digits * tenTo exponent.toNat) (tenTo (-exponent).toNat)

def ofDigits (digits : List Char) : Nat :=
  digits.foldl (fun number digit => 10 * number + (digit.toNat - '0'.toNat)) 0

end EventScript.Number
