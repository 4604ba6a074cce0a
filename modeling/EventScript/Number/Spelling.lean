import EventScript.Number.Arithmetic
import EventScript.Number.Decimal
import EventScript.Text.Blank

/-!
How scripts write and read numbers. A whole number below 10 ^ 15 is written as an integer, every
other finite number with its shortest digits and never with an exponent. Reading accepts decimal
text with an optional sign, fraction and exponent, and the names of the special values.
-/

namespace EventScript.Number

def integerTextLimit : Nat := tenTo 15

def integerText (number : Int) : String :=
  if number < 0 then "-" ++ Nat.repr number.natAbs else Nat.repr number.natAbs

/-- The text of a number. The negative zero is written like the positive one, and of two equally
near shortest decimals the one farther from zero is written. -/
def text (number : Double) : String :=
  match shape number with
  | .notANumber => "NaN"
  | .infinite negative => if negative then "-Infinity" else "Infinity"
  | .finite negative mantissa power =>
    match wholePart mantissa power with
    | (whole, false) =>
      if whole < integerTextLimit then integerText (if negative then -(whole : Int) else whole)
      else signed negative mantissa power
    | (_, true) => signed negative mantissa power
where
  signed (negative : Bool) (mantissa power : Nat) : String :=
    let (digits, leading) := (shortest .up mantissa power).significant
    let body := positional digits leading []
    String.ofList (if negative then '-' :: body else body)

def readSign : List Char → Bool × List Char
  | '-' :: rest => (true, rest)
  | '+' :: rest => (false, rest)
  | chars => (false, chars)

def readExponent? : List Char → Option Int
  | [] => some 0
  | mark :: rest =>
    if mark == 'e' || mark == 'E' then
      let (negative, digits) := readSign rest
      if digits.isEmpty || !digits.all Char.isDigit then none
      else some (if negative then -(ofDigits digits : Int) else ofDigits digits)
    else none

def readDecimal? (negative : Bool) (chars : List Char) : Option Double :=
  let (whole, rest) := chars.span Char.isDigit
  let (fraction, rest) :=
    match rest with
    | '.' :: rest => rest.span Char.isDigit
    | rest => ([], rest)
  if whole.isEmpty && fraction.isEmpty then none
  else
    (readExponent? rest).map fun exponent =>
      ofDecimal negative (ofDigits (whole ++ fraction)) (exponent - fraction.length)

/-- Reads a number from text with blanks around it. Of the special values only the spellings
`NaN` and `Infinity` are known. -/
def read? (source : String) : Option Double :=
  let (negative, body) := readSign (Text.trimChars source.toList)
  if body == "NaN".toList then some (if negative then -notANumber else notANumber)
  else if body == "Infinity".toList then some (infinity negative)
  else readDecimal? negative body

end EventScript.Number
