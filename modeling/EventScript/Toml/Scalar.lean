import EventScript.Document.Reader
import EventScript.Number.Spelling
import EventScript.Toml

/-!
The single values of a TOML document. Every reader takes the characters that are left and gives what
it read with the characters after it, or none if they do not fit.
-/

namespace EventScript.Toml

def isSpace (char : Char) : Bool := char == ' ' || char == '\t'

def skipSpaces (chars : List Char) : List Char := chars.dropWhile isSpace

def isPrintable (char : Char) : Bool :=
  char == '\t' || 0x20 ≤ char.toNat && char.toNat != 0x7f

def readNewline : List Char → Option (List Char)
  | '\n' :: rest | '\r' :: '\n' :: rest => some rest
  | _ => none

def skipNewline (chars : List Char) : List Char := (readNewline chars).getD chars

def readEscape : List Char → Option (Char × List Char)
  | 'b' :: rest => some (Char.ofNat 8, rest)
  | 't' :: rest => some ('\t', rest)
  | 'n' :: rest => some ('\n', rest)
  | 'f' :: rest => some (Char.ofNat 12, rest)
  | 'r' :: rest => some ('\r', rest)
  | '"' :: rest => some ('"', rest)
  | '\\' :: rest => some ('\\', rest)
  | 'u' :: rest => ofCode 4 rest
  | 'U' :: rest => ofCode 8 rest
  | _ => none
where
  ofCode (length : Nat) (chars : List Char) : Option (Char × List Char) := do
    let code ← Document.hexNumber? (chars.take length)
    if length ≤ chars.length ∧ code.isValidChar then
      some (Char.ofNat code, chars.drop length)
    else none

/-- Reads a text on one line after its opening quote; `before` holds its characters so far, last one
first. Escapes count between double quotes only. -/
def readLineText (quote : Char) : Nat → List Char → List Char → Option (String × List Char)
  | 0, _, _ => none
  | _, _, [] => none
  | bound + 1, before, char :: rest =>
    if char == quote then some (String.ofList before.reverse, rest)
    else if char == '\\' && quote == '"' then
      match readEscape rest with
      | some (escaped, rest) => readLineText quote bound (escaped :: before) rest
      | none => none
    else if isPrintable char then readLineText quote bound (char :: before) rest
    else none

def readHiddenNewline (chars : List Char) : Option (List Char) :=
  (readNewline (skipSpaces chars)).map fun rest =>
    rest.dropWhile fun char => isSpace char || char == '\n' || char == '\r'

def returnsPaired : List Char → Bool
  | '\r' :: '\n' :: rest => returnsPaired rest
  | '\r' :: _ => false
  | _ :: rest => returnsPaired rest
  | [] => true

/-- Reads a text over several lines after its three opening quotes. One or two quotes may stand in
it, also right before the three that close it. -/
def readLongText (quote : Char) : Nat → List Char → List Char → Option (String × List Char)
  | 0, _, _ => none
  | _, _, [] => none
  | bound + 1, before, char :: rest =>
    if char == quote then
      let count := min 5 ((char :: rest).takeWhile (· == quote)).length
      if 3 ≤ count then
        some (String.ofList (List.replicate (count - 3) quote ++ before).reverse,
          (char :: rest).drop count)
      else readLongText quote bound (char :: before) rest
    else if char == '\\' && quote == '"' then
      match readHiddenNewline rest with
      | some after =>
        if returnsPaired (rest.take (rest.length - after.length)) then
          readLongText quote bound before after
        else none
      | none =>
        match readEscape rest with
        | some (escaped, rest) => readLongText quote bound (escaped :: before) rest
        | none => none
    else
      match readNewline (char :: rest) with
      | some rest => readLongText quote bound ('\n' :: before) rest
      | none => if isPrintable char then readLongText quote bound (char :: before) rest else none

def readText (quote : Char) (chars : List Char) : Option (String × List Char) :=
  let delimiter := List.replicate 3 quote
  if delimiter.isPrefixOf chars then
    let rest := skipNewline (chars.drop 3)
    readLongText quote (rest.length + 1) [] rest
  else readLineText quote (chars.length + 1) [] (chars.drop 1)

def readDigits (isDigit : Char → Bool) : List Char → Option (List Char × List Char)
  | [] => none
  | char :: rest =>
    if isDigit char then
      match rest with
      | '_' :: after => (readDigits isDigit after).map fun (digits, rest) => (char :: digits, rest)
      | next :: after =>
        if isDigit next then
          (readDigits isDigit (next :: after)).map fun (digits, rest) => (char :: digits, rest)
        else some ([char], next :: after)
      | [] => some ([char], [])
    else none

def readWhole : List Char → Option (List Char × List Char)
  | '0' :: rest => some (['0'], rest)
  | chars => readDigits Char.isDigit chars

def readExponent (mark : Char) (chars : List Char) : Option (List Char × List Char) :=
  let (sign, rest) := match chars with
    | '+' :: rest => (['+'], rest)
    | '-' :: rest => (['-'], rest)
    | rest => ([], rest)
  (readDigits Char.isDigit rest).map fun (digits, rest) => (mark :: sign ++ digits, rest)

def readFraction : List Char → Option (List Char × List Char)
  | '.' :: rest => do
    let (digits, rest) ← readDigits Char.isDigit rest
    match rest with
    | 'e' :: after | 'E' :: after =>
      let (exponent, rest) ← readExponent 'e' after
      some ('.' :: digits ++ exponent, rest)
    | rest => some ('.' :: digits, rest)
  | 'e' :: rest | 'E' :: rest => readExponent 'e' rest
  | _ => none

def hasFraction : List Char → Bool
  | '.' :: _ | 'e' :: _ | 'E' :: _ => true
  | _ => false

def inRange (number : Int) : Bool :=
  decide (Number.leastInteger ≤ number ∧ number ≤ Number.greatestInteger)

def readInteger (negative : Bool) (digits rest : List Char) : Option (Item × List Char) :=
  let magnitude : Int := Number.ofDigits digits
  let number := if negative then -magnitude else magnitude
  if inRange number then some (.integer number, rest) else none

def readSigned (negative : Bool) : List Char → Option (Item × List Char)
  | 'i' :: 'n' :: 'f' :: rest => some (.real (Number.infinity negative), rest)
  | 'n' :: 'a' :: 'n' :: rest => some (.real Number.notANumber, rest)
  | chars => do
    let (whole, rest) ← readWhole chars
    if hasFraction rest then
      let (fraction, rest) ← readFraction rest
      let number ← Number.readDecimal? negative (whole ++ fraction)
      if Number.isInfinite number && !negative then none else some (.real number, rest)
    else readInteger negative whole rest

def ofBase (base : Nat) (digits : List Char) : Option Nat :=
  digits.foldlM (fun total char => (Document.hexValue? char).map (base * total + ·)) 0

def readInBase (base : Nat) (chars : List Char) : Option (Item × List Char) := do
  let isDigit (char : Char) : Bool :=
    (Document.hexValue? char).any fun digit => decide (digit < base)
  let (digits, rest) ← readDigits isDigit chars
  let number ← ofBase base digits
  if inRange number then some (.integer number, rest) else none

def readPair (low high : Nat) : List Char → Option (List Char)
  | first :: second :: rest =>
    let number := Number.ofDigits [first, second]
    if first.isDigit ∧ second.isDigit ∧ low ≤ number ∧ number ≤ high then some rest else none
  | _ => none

def readMark (mark : Char) : List Char → Option (List Char)
  | char :: rest => if char == mark then some rest else none
  | [] => none

def readTime (chars : List Char) : Option (List Char) := do
  let rest ← readPair 0 23 chars
  let rest ← readPair 0 59 (← readMark ':' rest)
  let rest ← readPair 0 60 (← readMark ':' rest)
  match rest with
  | '.' :: digit :: after =>
    if digit.isDigit then some (after.dropWhile Char.isDigit) else some rest
  | rest => some rest

def readOffset : List Char → Option (List Char)
  | 'Z' :: rest | 'z' :: rest => some rest
  | '+' :: rest | '-' :: rest => do
    let rest ← readPair 0 23 rest
    readPair 0 59 (← readMark ':' rest)
  | rest => some rest

def isLeapYear (year : Nat) : Bool := year % 4 == 0 && (year % 100 != 0 || year % 400 == 0)

def daysIn (year month : Nat) : Nat :=
  if month == 2 then (if isLeapYear year then 29 else 28)
  else if [4, 6, 9, 11].contains month then 30 else 31

def startsTime (chars : List Char) : Bool :=
  (readPair 0 23 chars).any fun rest => rest.head? == some ':'

def readDate (chars : List Char) : Option (List Char) := do
  let year := Number.ofDigits (chars.take 4)
  let rest ← readMark '-' (chars.drop 4)
  let month := Number.ofDigits (rest.take 2)
  let rest ← readMark '-' (← readPair 1 12 rest)
  let rest ← readPair 1 (daysIn year month) rest
  match rest with
  | mark :: after =>
    if (mark == 'T' || mark == 't' || mark == ' ') && startsTime after then
      readOffset (← readTime after)
    else some rest
  | [] => some []

def startsDate (chars : List Char) : Bool :=
  (chars.take 4).all Char.isDigit && (chars.drop 4).head? == some '-'

def readNumber (chars : List Char) : Option (Item × List Char) :=
  if startsDate chars then (readDate chars).map fun rest => (.moment, rest)
  else if startsTime chars then (readTime chars).map fun rest => (.moment, rest)
  else
    match chars with
    | '0' :: 'x' :: rest => readInBase 16 rest
    | '0' :: 'o' :: rest => readInBase 8 rest
    | '0' :: 'b' :: rest => readInBase 2 rest
    | '+' :: rest => readSigned false rest
    | '-' :: rest => readSigned true rest
    | chars => readSigned false chars

def readScalar : List Char → Option (Item × List Char)
  | '"' :: rest => (readText '"' ('"' :: rest)).map fun (content, rest) => (.text content, rest)
  | '\'' :: rest => (readText '\'' ('\'' :: rest)).map fun (content, rest) => (.text content, rest)
  | 't' :: 'r' :: 'u' :: 'e' :: rest => some (.bool true, rest)
  | 'f' :: 'a' :: 'l' :: 's' :: 'e' :: rest => some (.bool false, rest)
  | chars => readNumber chars

end EventScript.Toml
