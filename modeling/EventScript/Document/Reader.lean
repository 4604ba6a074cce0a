import EventScript.Dictionary
import EventScript.Document
import EventScript.Number.Arithmetic
import EventScript.Number.Decimal

/-!
Reading documents from JSON text. The whole text has to be one document with blanks around it, and
arrays and objects may be nested less than 128 deep. Of several members of one name in an object the
first gives the position and the last the value.
-/

namespace EventScript.Document

/-- One more than the number of arrays and objects that may be open at once. -/
def nestingLimit : Nat := 128

def isBlank (char : Char) : Bool := char == ' ' || char == '\n' || char == '\t' || char == '\r'

def skipBlanks (chars : List Char) : List Char := chars.dropWhile isBlank

def significandLimit : Nat := 18446744073709551615

/-- The digits read so far: their significand, and the power of ten that scales it. -/
structure Scaled where
  significand : Nat
  exponent : Int

def Scaled.wholeStep (state : Scaled × Bool) (digit : Char) : Scaled × Bool :=
  let (scaled, full) := state
  let next := 10 * scaled.significand + (digit.toNat - '0'.toNat)
  if full || significandLimit < next then
    (⟨scaled.significand, scaled.exponent + 1⟩, true)
  else (⟨next, scaled.exponent⟩, false)

/-- Takes in the digits before the point. From the first one that does not fit on, a digit only
counts for the scale. -/
def Scaled.ofWhole (digits : List Char) : Scaled :=
  (digits.foldl wholeStep (⟨0, 0⟩, false)).1

def Scaled.addFraction (scaled : Scaled) : List Char → Scaled
  | [] => scaled
  | digit :: rest =>
    let next := 10 * scaled.significand + (digit.toNat - '0'.toNat)
    if significandLimit < next then scaled
    else addFraction ⟨next, scaled.exponent - 1⟩ rest

/-- Scales by powers of ten in double arithmetic, in steps of at most 10 ^ 308; more than a few
steps down always end at zero. Numbers too large for a double are refused. -/
def scale? : Nat → Double → Int → Option Double
  | 0, double, _ => some double
  | steps + 1, double, exponent =>
    if exponent.natAbs ≤ 308 then
      let power := Number.ofDecimal false 1 exponent.natAbs
      if 0 ≤ exponent then
        let scaled := double * power
        if Number.isInfinite scaled then none else some scaled
      else some (double / power)
    else if Number.isZero double then some double
    else if 0 ≤ exponent then none
    else scale? steps (double / Number.ofDecimal false 1 308) (exponent + 308)

def withSign (negative : Bool) (double : Double) : Double := if negative then -double else double

def Scaled.toNumber? (negative : Bool) (scaled : Scaled) (exponentNegative : Bool)
    (exponent : Nat) : Option Double :=
  if 2147483648 ≤ exponent then
    if scaled.significand ≠ 0 ∧ !exponentNegative then none else some (Number.zero negative)
  else
    let shift : Int := if exponentNegative then -(exponent : Int) else exponent
    (scale? 4 (Number.ofNat scaled.significand) (scaled.exponent + shift)).map (withSign negative)

def readFraction : List Char → Option (List Char × List Char)
  | '.' :: rest =>
    let (digits, rest) := rest.span Char.isDigit
    if digits.isEmpty then none else some (digits, rest)
  | rest => some ([], rest)

def readExponentSign : List Char → Bool × List Char
  | '-' :: rest => (true, rest)
  | '+' :: rest => (false, rest)
  | rest => (false, rest)

def readExponent : List Char → Option ((Bool × Nat) × List Char)
  | [] => some ((false, 0), [])
  | mark :: rest =>
    if mark == 'e' || mark == 'E' then
      let (negative, rest) := readExponentSign rest
      let (digits, rest) := rest.span Char.isDigit
      if digits.isEmpty then none else some ((negative, Number.ofDigits digits), rest)
    else some ((false, 0), mark :: rest)

def readNumber (negative : Bool) (chars : List Char) : Option (Double × List Char) :=
  let (whole, rest) := chars.span Char.isDigit
  if whole.isEmpty || (whole.head? == some '0' && 1 < whole.length) then none
  else do
    let (fraction, rest) ← readFraction rest
    let ((exponentNegative, exponent), rest) ← readExponent rest
    let scaled := (Scaled.ofWhole whole).addFraction fraction
    let double ← scaled.toNumber? negative exponentNegative exponent
    return (double, rest)

def hexValue? (char : Char) : Option Nat :=
  if char.isDigit then some (char.toNat - '0'.toNat)
  else if 'a' ≤ char ∧ char ≤ 'f' then some (char.toNat - 'a'.toNat + 10)
  else if 'A' ≤ char ∧ char ≤ 'F' then some (char.toNat - 'A'.toNat + 10)
  else none

def hexNumber? (chars : List Char) : Option Nat :=
  chars.foldlM (fun total char => (hexValue? char).map (16 * total + ·)) 0

/-- Reads what follows a backslash. Two halves of a surrogate pair make one character, and neither
stands alone. -/
def readEscape : List Char → Option (Char × List Char)
  | '"' :: rest => some ('"', rest)
  | '\\' :: rest => some ('\\', rest)
  | '/' :: rest => some ('/', rest)
  | 'b' :: rest => some (Char.ofNat 8, rest)
  | 'f' :: rest => some (Char.ofNat 12, rest)
  | 'n' :: rest => some ('\n', rest)
  | 'r' :: rest => some ('\r', rest)
  | 't' :: rest => some ('\t', rest)
  | 'u' :: a :: b :: c :: d :: rest => do
    let unit ← hexNumber? [a, b, c, d]
    if 0xdc00 ≤ unit ∧ unit ≤ 0xdfff then none
    else if 0xd800 ≤ unit ∧ unit ≤ 0xdbff then
      match rest with
      | '\\' :: 'u' :: e :: f :: g :: h :: rest =>
        let second ← hexNumber? [e, f, g, h]
        if 0xdc00 ≤ second ∧ second ≤ 0xdfff then
          some (Char.ofNat (0x10000 + (unit - 0xd800) * 0x400 + (second - 0xdc00)), rest)
        else none
      | _ => none
    else some (Char.ofNat unit, rest)
  | _ => none

/-- Reads a text after its opening quote; `before` holds its characters so far, last one first. -/
def readText : Nat → List Char → List Char → Option (String × List Char)
  | 0, _, _ => none
  | _, _, [] => none
  | bound + 1, before, char :: rest =>
    if char == '"' then some (String.ofList before.reverse, rest)
    else if char == '\\' then
      match readEscape rest with
      | some (escaped, rest) => readText bound (escaped :: before) rest
      | none => none
    else if char.toNat < 32 then none
    else readText bound (char :: before) rest

def readItems (readItem : List Char → Option (Document × List Char)) :
    Nat → List Document → List Char → Option (List Document × List Char)
  | 0, _, _ => none
  | bound + 1, before, chars =>
    match readItem chars with
    | none => none
    | some (item, rest) =>
      match skipBlanks rest with
      | ',' :: rest => readItems readItem bound (item :: before) rest
      | ']' :: rest => some ((item :: before).reverse, rest)
      | _ => none

def readMembers (readItem : List Char → Option (Document × List Char)) :
    Nat → Dictionary Document → List Char → Option (Dictionary Document × List Char)
  | 0, _, _ => none
  | bound + 1, before, chars =>
    match skipBlanks chars with
    | '"' :: rest =>
      match readText (rest.length + 1) [] rest with
      | none => none
      | some (name, rest) =>
        match skipBlanks rest with
        | ':' :: rest =>
          match readItem rest with
          | none => none
          | some (item, rest) =>
            match skipBlanks rest with
            | ',' :: rest => readMembers readItem bound (before.put name item) rest
            | '}' :: rest => some (before.put name item, rest)
            | _ => none
        | _ => none
    | _ => none

/-- Reads one document, where fewer than `levels` more arrays and objects may be open inside. -/
def readAt : Nat → List Char → Option (Document × List Char)
  | levels, chars =>
    match skipBlanks chars with
    | 'n' :: 'u' :: 'l' :: 'l' :: rest => some (.null, rest)
    | 't' :: 'r' :: 'u' :: 'e' :: rest => some (.bool true, rest)
    | 'f' :: 'a' :: 'l' :: 's' :: 'e' :: rest => some (.bool false, rest)
    | '"' :: rest =>
      (readText (rest.length + 1) [] rest).map fun (content, rest) => (.text content, rest)
    | '[' :: rest =>
      match levels with
      | 0 => none
      | levels + 1 =>
        match skipBlanks rest with
        | ']' :: rest => some (.array [], rest)
        | rest =>
          (readItems (readAt levels) (rest.length + 1) [] rest).map fun (items, rest) =>
            (.array items, rest)
    | '{' :: rest =>
      match levels with
      | 0 => none
      | levels + 1 =>
        match skipBlanks rest with
        | '}' :: rest => some (.object [], rest)
        | rest =>
          (readMembers (readAt levels) (rest.length + 1) {} rest).map fun (members, rest) =>
            (.object members.entries, rest)
    | '-' :: rest => (readNumber true rest).map fun (double, rest) => (.number double, rest)
    | rest => (readNumber false rest).map fun (double, rest) => (.number double, rest)

def read? (source : String) : Option Document :=
  match readAt (nestingLimit - 1) source.toList with
  | some (document, rest) => if (skipBlanks rest).isEmpty then some document else none
  | none => none

end EventScript.Document
