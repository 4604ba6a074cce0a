import EventScript.Document.Reader
import EventScript.Pattern.Basic
import EventScript.Pattern.Property

/-!
Reading the notation of patterns: literal characters and escapes, sets in brackets, groups with
flags, alternatives and repetitions. There is no looking around and no reference back to a group.
Anything that is not in the notation makes the whole pattern invalid.
-/

namespace EventScript.Pattern

structure Flags where
  anyCase : Bool := false
  manyLines : Bool := false
  dotAll : Bool := false
  swapGreed : Bool := false
  broadLines : Bool := false
  ignoreBlanks : Bool := false
  plain : Bool := false

structure Reading where
  rest : List Char
  flags : Flags := {}
  names : List String := []

namespace Reading

def skipComment : List Char → List Char
  | [] => []
  | char :: rest => if char == '\n' then rest else skipComment rest

def skipIgnored : Nat → List Char → List Char
  | 0, chars => chars
  | _, [] => []
  | bound + 1, char :: rest =>
    if Text.isBlank char then skipIgnored bound rest
    else if char == '#' then skipIgnored bound (skipComment rest)
    else char :: rest

def skipBlanks (reading : Reading) : Reading :=
  if reading.flags.ignoreBlanks then
    { reading with rest := skipIgnored reading.rest.length reading.rest }
  else reading

def movedTo (reading : Reading) (rest : List Char) : Reading := { reading with rest }

end Reading

open Reading

def withCase (flags : Flags) (set : CharSet) : CharSet :=
  if flags.anyCase then .anyCase set else set

def literalNode (flags : Flags) (char : Char) : Node := .one (withCase flags (.single char))

def wordTest (flags : Flags) : Char → Bool := if flags.plain then isPlainWordChar else isWordChar

inductive Escaped where
  | literal (char : Char)
  | group (set : CharSet)
  | place (place : Place)

def charOfCode? (code : Nat) : Option Char :=
  if code < 0xd800 ∨ (0xdfff < code ∧ code < 0x110000) then some (Char.ofNat code) else none

def readHex (count : Nat) (chars : List Char) : Option (Char × List Char) :=
  match chars with
  | '\x7b' :: rest =>
    let digits := rest.takeWhile (· != '\x7d')
    match rest.drop digits.length with
    | '\x7d' :: rest =>
      if digits.isEmpty || 8 < (digits.dropWhile (· == '0')).length then none
      else do
        let code ← Document.hexNumber? digits
        let char ← charOfCode? code
        return (char, rest)
    | _ => none
  | _ =>
    if chars.length < count then none
    else do
      let code ← Document.hexNumber? (chars.take count)
      let char ← charOfCode? code
      return (char, chars.drop count)

def letterClass? (flags : Flags) (letter : Char) : Option CharSet :=
  let choose (wide narrow : Char → Bool) : CharSet := .named (if flags.plain then narrow else wide)
  match letter with
  | 'd' => some (choose isDecimalDigit Char.isDigit)
  | 's' => some (choose Text.isBlank isPlainBlank)
  | 'w' => some (choose isWordChar isPlainWordChar)
  | 'D' => if flags.plain then none else some (.complement (.named isDecimalDigit))
  | 'S' => if flags.plain then none else some (.complement (.named Text.isBlank))
  | 'W' => if flags.plain then none else some (.complement (.named isWordChar))
  | _ => none

def wordEdgeName? (isWord : Char → Bool) (name : String) : Option Place :=
  match name with
  | "start" => some (.wordStart isWord)
  | "end" => some (.wordFinish isWord)
  | "start-half" => some (.beforeWord isWord)
  | "end-half" => some (.afterWord isWord)
  | _ => none

/-- A word edge, with the kind in braces if one is given. Braces that begin like no name are left
for the repetition they are. -/
def readWordEdge (flags : Flags) (chars : List Char) : Option (Escaped × List Char) :=
  let isWord := wordTest flags
  match chars with
  | '\x7b' :: rest =>
    let name := rest.takeWhile fun char => char.isAlpha || char == '-'
    if name.isEmpty then some (.place (.wordEdge isWord), chars)
    else
      match rest.drop name.length with
      | '\x7d' :: rest =>
        (wordEdgeName? isWord (String.ofList name)).map fun place => (.place place, rest)
      | _ => none
  | _ => some (.place (.wordEdge isWord), chars)

def readProperty (flags : Flags) (negated : Bool) (chars : List Char) :
    Option (Escaped × List Char) := do
  let (name, rest) ← match chars with
    | [] => none
    | '\x7b' :: rest =>
      let name := rest.takeWhile (· != '\x7d')
      if name.length = rest.length then none else some (name, rest.drop (name.length + 1))
    | letter :: rest => some ([letter], rest)
  let (inverted, set) ← propertySet? name
  if flags.plain then none
  else
    let set := withCase flags set
    some (.group (if negated != inverted then .complement set else set), rest)

def readEscape (flags : Flags) : List Char → Option (Escaped × List Char)
  | [] => none
  | letter :: rest =>
    match letterClass? flags letter with
    | some set => some (.group (withCase flags set), rest)
    | none =>
      if letter == 'x' then (readHex 2 rest).map fun (char, rest) => (.literal char, rest)
      else if letter == 'u' then (readHex 4 rest).map fun (char, rest) => (.literal char, rest)
      else if letter == 'U' then (readHex 8 rest).map fun (char, rest) => (.literal char, rest)
      else if letter == 'a' then some (.literal (Char.ofNat 7), rest)
      else if letter == 'f' then some (.literal (Char.ofNat 12), rest)
      else if letter == 't' then some (.literal '\t', rest)
      else if letter == 'n' then some (.literal '\n', rest)
      else if letter == 'r' then some (.literal '\r', rest)
      else if letter == 'v' then some (.literal (Char.ofNat 11), rest)
      else if letter == 'A' then some (.place .start, rest)
      else if letter == 'z' then some (.place .finish, rest)
      else if letter == 'p' then readProperty flags false rest
      else if letter == 'P' then readProperty flags true rest
      else if letter == 'b' then readWordEdge flags rest
      else if letter == 'B' then some (.place (.notWordEdge (wordTest flags)), rest)
      else if letter == '<' then some (.place (.wordStart (wordTest flags)), rest)
      else if letter == '>' then some (.place (.wordFinish (wordTest flags)), rest)
      else if letter.toNat ≤ 127 && !letter.isAlphanum then some (.literal letter, rest)
      else none

def readNamedSet (chars : List Char) : Option (CharSet × List Char) :=
  match chars with
  | ':' :: rest =>
    let (negated, rest) := match rest with
      | '^' :: rest => (true, rest)
      | rest => (false, rest)
    let name := rest.takeWhile (· != ':')
    match rest.drop name.length with
    | ':' :: ']' :: rest =>
      (CharSet.ofName? (String.ofList name)).map fun set =>
        (if negated then .complement set else set, rest)
    | _ => none
  | _ => none

inductive Member where
  | literal (char : Char)
  | group (set : CharSet)

def readMember (flags : Flags) : List Char → Option (Member × List Char)
  | [] => none
  | '\\' :: rest =>
    match readEscape flags rest with
    | some (.literal char, rest) => some (.literal char, rest)
    | some (.group set, rest) => some (.group set, rest)
    | _ => none
  | char :: rest => some (.literal char, rest)

def Member.toSet : Member → CharSet
  | .literal char => .single char
  | .group set => set

def readRange (reading : Reading) : Option (CharSet × Reading) := do
  let (first, rest) ← readMember reading.flags reading.rest
  let after := (reading.movedTo rest).skipBlanks
  match after.rest with
  | [] => none
  | '-' :: rest =>
    let behind := (after.movedTo rest).skipBlanks
    match behind.rest with
    | ']' :: _ | '-' :: _ => return (first.toSet, after)
    | _ =>
      let (last, rest) ← readMember reading.flags behind.rest
      match first, last with
      | .literal first, .literal last =>
        if last.toNat < first.toNat then none
        else return (.range first last, behind.movedTo rest)
      | _, _ => none
  | _ => return (first.toSet, after)

def combine (operator : Option (CharSet → CharSet → CharSet)) (left : CharSet)
    (members : List CharSet) : CharSet :=
  match operator with
  | none => .union members
  | some operator => operator left (.union members)

def leadingMembers (reading : Reading) : List CharSet × Reading :=
  let dashes := reading.rest.takeWhile (· == '-')
  let rest := reading.rest.drop dashes.length
  match dashes, rest with
  | [], ']' :: rest => ([.single ']'], (reading.movedTo rest).skipBlanks)
  | _, _ => (dashes.map .single, (reading.movedTo rest).skipBlanks)

mutual

def readSet : Nat → Reading → Option (CharSet × Reading)
  | 0, _ => none
  | bound + 1, reading => do
    let reading := reading.skipBlanks
    let (negated, reading) := match reading.rest with
      | '^' :: rest => (true, (reading.movedTo rest).skipBlanks)
      | _ => (false, reading)
    let (members, reading) := leadingMembers reading
    let (set, reading) ← readMembers bound none (.union []) members reading
    let set := withCase reading.flags set
    if negated && reading.flags.plain then none
    return (if negated then .complement set else set, reading)

def readMembers : Nat → Option (CharSet → CharSet → CharSet) → CharSet → List CharSet → Reading →
    Option (CharSet × Reading)
  | 0, _, _, _, _ => none
  | bound + 1, operator, left, members, reading =>
    let reading := reading.skipBlanks
    match reading.rest with
    | [] => none
    | ']' :: rest => some (combine operator left members, reading.movedTo rest)
    | '[' :: rest =>
      match readNamedSet rest with
      | some (set, rest) =>
        readMembers bound operator left (members ++ [set]) (reading.movedTo rest)
      | none =>
        match readSet bound (reading.movedTo rest) with
        | some (set, reading) => readMembers bound operator left (members ++ [set]) reading
        | none => none
    | '&' :: '&' :: rest =>
      readMembers bound (some .both) (combine operator left members) [] (reading.movedTo rest)
    | '-' :: '-' :: rest =>
      readMembers bound (some .without) (combine operator left members) [] (reading.movedTo rest)
    | '~' :: '~' :: rest =>
      readMembers bound (some .exactlyOne) (combine operator left members) [] (reading.movedTo rest)
    | _ =>
      match readRange reading with
      | some (set, reading) => readMembers bound operator left (members ++ [set]) reading
      | none => none

end

/-- Reads flags up to the colon or parenthesis after them. `seen` holds the letters so far, and
`off` says whether a minus sign came. -/
def readFlags (flags : Flags) (seen : List Char) (off : Bool) :
    List Char → Option (Flags × Bool × List Char)
  | [] => none
  | char :: rest =>
    if char == ':' || char == ')' then
      if seen.head? == some '-' then none
      else if char == ')' && seen.isEmpty then none
      else some (flags, char == ':', rest)
    else if seen.contains char then none
    else if char == '-' then readFlags flags ('-' :: seen) true rest
    else
      let value := !off
      match char with
      | 'i' => readFlags { flags with anyCase := value } (char :: seen) off rest
      | 'm' => readFlags { flags with manyLines := value } (char :: seen) off rest
      | 's' => readFlags { flags with dotAll := value } (char :: seen) off rest
      | 'U' => readFlags { flags with swapGreed := value } (char :: seen) off rest
      | 'R' => readFlags { flags with broadLines := value } (char :: seen) off rest
      | 'x' => readFlags { flags with ignoreBlanks := value } (char :: seen) off rest
      | 'u' => readFlags { flags with plain := off } (char :: seen) off rest
      | _ => none

def readGroupName (chars : List Char) : Option (String × List Char) :=
  let name := chars.takeWhile (· != '>')
  match name, chars.drop name.length with
  | first :: more, '>' :: rest =>
    let continues (char : Char) : Bool :=
      Text.isLetterOrNumeral char || char == '_' || char == '.' || char == '[' || char == ']'
    if (Text.isLetter first || first == '_') && more.all continues then
      some (String.ofList name, rest)
    else none
  | _, _ => none

def readCount (chars : List Char) : Option (Nat × List Char) :=
  let chars := Text.trimStart chars
  let digits := chars.takeWhile Char.isDigit
  if digits.isEmpty then none
  else
    let count := Number.ofDigits digits
    if 4294967296 ≤ count then none
    else some (count, Text.trimStart (chars.drop digits.length))

def readBounds (reading : Reading) : Option (Nat × Option Nat × Reading) := do
  let (least, rest) ← readCount reading.skipBlanks.rest
  match rest with
  | '\x7d' :: rest => return (least, some least, reading.movedTo rest)
  | ',' :: rest =>
    match ((reading.movedTo rest).skipBlanks).rest with
    | '\x7d' :: rest => return (least, none, reading.movedTo rest)
    | rest =>
      let (most, rest) ← readCount rest
      match rest with
      | '\x7d' :: rest =>
        if most < least then none else return (least, some most, reading.movedTo rest)
      | _ => none
  | _ => none

def addRepetition (least : Nat) (most : Option Nat) (parts : List (Option Node))
    (reading : Reading) : Option (List (Option Node) × Reading) :=
  match parts with
  | some body :: parts =>
    let reading := reading.skipBlanks
    let (greedy, reading) := match reading.rest with
      | '?' :: rest => (false, reading.movedTo rest)
      | _ => (true, reading)
    some (some (.repeated least most (greedy != reading.flags.swapGreed) body) :: parts, reading)
  | _ => none

def joinParts (parts : List (Option Node)) : Node :=
  match parts.filterMap id with
  | [] => .empty
  | last :: before => before.foldl (fun node part => .sequence part node) last

def plainNode (reading : Reading) (char : Char) (rest : List Char) : Option (Node × Reading) :=
  let flags := reading.flags
  match char with
  | '\\' =>
    match readEscape flags rest with
    | some (.literal char, rest) => some (literalNode flags char, reading.movedTo rest)
    | some (.group set, rest) => some (.one set, reading.movedTo rest)
    | some (.place place, rest) => some (.place place, reading.movedTo rest)
    | none => none
  | '.' =>
    if flags.plain then none
    else
      let excluded : CharSet :=
        if flags.dotAll then .union []
        else if flags.broadLines then .union [.single '\n', .single '\r']
        else .single '\n'
      some (.one (.complement excluded), reading.movedTo rest)
  | '^' =>
    let place : Place := if flags.manyLines then
      (if flags.broadLines then .lineStartBroad else .lineStart) else .start
    some (.place place, reading.movedTo rest)
  | '$' =>
    let place : Place := if flags.manyLines then
      (if flags.broadLines then .lineFinishBroad else .lineFinish) else .finish
    some (.place place, reading.movedTo rest)
  | char => some (literalNode flags char, reading.movedTo rest)

def nestingLimit : Nat := 250

mutual

def readAlternatives : Nat → Nat → Reading → Option (Node × Reading)
  | 0, _, _ => none
  | bound + 1, depth, reading =>
    match readSequence bound depth [] reading with
    | none => none
    | some (first, reading) =>
      match reading.rest with
      | '|' :: rest =>
        match readAlternatives bound depth (reading.movedTo rest) with
        | some (second, reading) => some (.alternative first second, reading)
        | none => none
      | _ => some (first, reading)

/-- Reads the parts of a sequence; those found so far are held last one first. -/
def readSequence : Nat → Nat → List (Option Node) → Reading → Option (Node × Reading)
  | 0, _, _, _ => none
  | bound + 1, depth, parts, reading =>
    let reading := reading.skipBlanks
    match reading.rest with
    | [] => some (joinParts parts, reading)
    | '|' :: _ => some (joinParts parts, reading)
    | ')' :: _ => some (joinParts parts, reading)
    | '*' :: rest =>
      match addRepetition 0 none parts (reading.movedTo rest) with
      | some (parts, reading) => readSequence bound depth parts reading
      | none => none
    | '+' :: rest =>
      match addRepetition 1 none parts (reading.movedTo rest) with
      | some (parts, reading) => readSequence bound depth parts reading
      | none => none
    | '?' :: rest =>
      match addRepetition 0 (some 1) parts (reading.movedTo rest) with
      | some (parts, reading) => readSequence bound depth parts reading
      | none => none
    | '\x7b' :: rest =>
      match readBounds (reading.movedTo rest) with
      | some (least, most, reading) =>
        match addRepetition least most parts reading with
        | some (parts, reading) => readSequence bound depth parts reading
        | none => none
      | none => none
    | '[' :: rest =>
      match readSet bound (reading.movedTo rest) with
      | some (set, reading) => readSequence bound depth (some (.one set) :: parts) reading
      | none => none
    | '(' :: rest =>
      match readGroup bound depth (reading.movedTo rest) with
      | some (part, reading) => readSequence bound depth (part :: parts) reading
      | none => none
    | char :: rest =>
      match plainNode reading char rest with
      | some (node, reading) => readSequence bound depth (some node :: parts) reading
      | none => none

def readGroup : Nat → Nat → Reading → Option (Option Node × Reading)
  | 0, _, _ => none
  | _, 0, _ => none
  | bound + 1, depth + 1, reading =>
    let outer := reading.flags
    let body (inner : Reading) : Option (Option Node × Reading) :=
      match readAlternatives bound depth inner with
      | some (node, reading) =>
        match reading.rest with
        | ')' :: rest => some (some node, { reading with rest, flags := outer })
        | _ => none
      | none => none
    let named (chars : List Char) : Option (Option Node × Reading) :=
      match readGroupName chars with
      | some (name, rest) =>
        if reading.names.contains name then none
        else body { reading with rest, names := name :: reading.names }
      | none => none
    match reading.skipBlanks.rest with
    | '?' :: '=' :: _ | '?' :: '!' :: _ => none
    | '?' :: '<' :: '=' :: _ | '?' :: '<' :: '!' :: _ => none
    | '?' :: 'P' :: '<' :: rest => named rest
    | '?' :: '<' :: rest => named rest
    | '?' :: rest =>
      match readFlags outer [] false rest with
      | some (flags, true, rest) => body { reading with rest, flags }
      | some (flags, false, rest) => some (none, { reading with rest, flags })
      | none => none
    | rest => body (reading.movedTo rest)

end

def weightLimit : Nat := 250000

def read? (source : String) : Option Node :=
  let chars := source.toList
  match readAlternatives (4 * chars.length + 10) nestingLimit { rest := chars } with
  | some (node, reading) =>
    if reading.rest.isEmpty && node.weight ≤ weightLimit then some node else none
  | none => none

end EventScript.Pattern
