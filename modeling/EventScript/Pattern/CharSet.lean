import EventScript.Text.Blank
import EventScript.Text.Case
import EventScript.Text.Category

/-!
Sets of characters in patterns: single characters and ranges, the named classes, and their
combinations. A set can be widened to ignore the difference between small letters and capitals.
-/

namespace EventScript.Pattern

def isDecimalDigit (char : Char) : Bool :=
  if char.toNat ≤ 127 then char.isDigit else Text.Category.decimalDigit.has char

def isJoiner (char : Char) : Bool := char == '\u200C' || char == '\u200D'

def isWordChar (char : Char) : Bool :=
  if char.toNat ≤ 127 then char.isAlphanum || char == '_'
  else
    Text.isLetter char || isJoiner char ||
      [Text.Category.nonspacingMark, .spacingMark, .enclosingMark, .decimalDigit, .connector].any
        (·.has char)

def isPlainWordChar (char : Char) : Bool := char.isAlphanum || char == '_'

def isPlainBlank (char : Char) : Bool :=
  char == ' ' || (9 ≤ char.toNat && char.toNat ≤ 13)

def lowerOne (char : Char) : Char :=
  match Text.lowerChar char with
  | [lower] => lower
  | _ => char

def upperOne (char : Char) : Char :=
  match Text.upperChar char with
  | [upper] => upper
  | _ => char

/-- The form in which characters are compared without regard to case. The dotless i stands apart. -/
def foldCase (char : Char) : Char :=
  if char == 'ı' then char else lowerOne (upperOne char)

def caseSources (runs : List Text.CaseShift) (char : Char) : List Char :=
  runs.filterMap fun run =>
    let code := ((char.toNat : Int) - run.shift).toNat
    if run.covers code then some (Char.ofNat code) else none

def caseVariants (char : Char) : List Char :=
  let folded := foldCase char
  let capital := upperOne folded
  let candidates := [char, folded, capital, lowerOne char, char.toUpper, folded.toUpper] ++
    caseSources Text.lowerShifts folded ++ caseSources Text.upperShifts capital
  candidates.filter fun candidate => foldCase candidate == folded

inductive CharSet where
  | single (member : Char)
  | range (first last : Char)
  | named (isMember : Char → Bool)
  | union (parts : List CharSet)
  | both (left right : CharSet)
  | without (left right : CharSet)
  | exactlyOne (left right : CharSet)
  | complement (set : CharSet)
  | anyCase (set : CharSet)

namespace CharSet

mutual

def contains : CharSet → Char → Bool
  | .single member, char => member == char
  | .range first last, char => first.toNat ≤ char.toNat && char.toNat ≤ last.toNat
  | .named isMember, char => isMember char
  | .union parts, char => containsAny parts char
  | .both left right, char => left.contains char && right.contains char
  | .without left right, char => left.contains char && !right.contains char
  | .exactlyOne left right, char => left.contains char != right.contains char
  | .complement set, char => !set.contains char
  | .anyCase set, char => (caseVariants char).any set.contains

def containsAny : List CharSet → Char → Bool
  | [], _ => false
  | part :: parts, char => part.contains char || containsAny parts char

end

def ofName? : String → Option CharSet
  | "alnum" => some (.named Char.isAlphanum)
  | "alpha" => some (.named Char.isAlpha)
  | "ascii" => some (.named fun char => char.toNat ≤ 127)
  | "blank" => some (.named fun char => char == ' ' || char == '\t')
  | "cntrl" => some (.named fun char => char.toNat < 32 || char.toNat == 127)
  | "digit" => some (.named Char.isDigit)
  | "graph" => some (.named fun char => 33 ≤ char.toNat && char.toNat ≤ 126)
  | "lower" => some (.named Char.isLower)
  | "print" => some (.named fun char => 32 ≤ char.toNat && char.toNat ≤ 126)
  | "punct" => some (.named fun char =>
      33 ≤ char.toNat && char.toNat ≤ 126 && !char.isAlphanum)
  | "space" => some (.named isPlainBlank)
  | "upper" => some (.named Char.isUpper)
  | "word" => some (.named isPlainWordChar)
  | "xdigit" => some (.named fun char => char.isDigit || ('a' ≤ char.toLower && char.toLower ≤ 'f'))
  | _ => none

end CharSet

end EventScript.Pattern
