import EventScript.Toml.Scalar

/-!
Reading TOML documents: values with parts, keys, and the lines of a document, each of which puts an
entry into the table of the last header.
-/

namespace EventScript.Toml

def depthLimit : Nat := 79

def skipComment : List Char → Option (List Char)
  | '#' :: rest =>
    let after := rest.dropWhile isPrintable
    if after.isEmpty || (readNewline after).isSome then some after else none
  | chars => some chars

def skipLines : Nat → List Char → Option (List Char)
  | 0, _ => none
  | bound + 1, chars =>
    match skipSpaces chars with
    | '#' :: rest => (skipComment ('#' :: rest)).bind (skipLines bound)
    | rest =>
      match readNewline rest with
      | some rest => skipLines bound rest
      | none => some rest

def skipBetween (chars : List Char) : Option (List Char) := skipLines (chars.length + 1) chars

def isKeyChar (char : Char) : Bool := char.isAlphanum || char == '_' || char == '-'

def readKeyPart : List Char → Option (String × List Char)
  | '"' :: rest => readLineText '"' (rest.length + 1) [] rest
  | '\'' :: rest => readLineText '\'' (rest.length + 1) [] rest
  | chars =>
    let word := chars.takeWhile isKeyChar
    if word.isEmpty then none else some (String.ofList word, chars.dropWhile isKeyChar)

def readKeyParts : Nat → List Char → Option (List String × List Char)
  | 0, _ => none
  | bound + 1, chars => do
    let (part, rest) ← readKeyPart (skipSpaces chars)
    match skipSpaces rest with
    | '.' :: rest =>
      let (parts, rest) ← readKeyParts bound rest
      some (part :: parts, rest)
    | rest => some ([part], rest)

def readKey (chars : List Char) : Option (List String × List Char) :=
  readKeyParts depthLimit chars

def readEntry (readItem : List Char → Option (Item × List Char)) (chars : List Char) :
    Option (List String × Item × List Char) := do
  let (path, rest) ← readKey chars
  let rest ← readMark '=' rest
  let (item, rest) ← readItem (skipSpaces rest)
  some (path, item, rest)

def readItems (readItem : List Char → Option (Item × List Char)) :
    Nat → List Char → Option (List Item × List Char)
  | 0, _ => none
  | bound + 1, chars => do
    match ← skipBetween chars with
    | ']' :: rest => some ([], rest)
    | rest =>
      let (item, rest) ← readItem rest
      match ← skipBetween rest with
      | ',' :: rest =>
        let (items, rest) ← readItems readItem bound rest
        some (item :: items, rest)
      | ']' :: rest => some ([item], rest)
      | _ => none

def readEntries (readItem : List Char → Option (Item × List Char)) :
    Nat → Table → List Char → Option (Table × List Char)
  | 0, _, _ => none
  | bound + 1, table, chars => do
    let (path, item, rest) ← readEntry readItem chars
    let table ← table.assign path item
    match skipSpaces rest with
    | ',' :: rest => readEntries readItem bound table rest
    | '}' :: rest => some (table, rest)
    | _ => none

/-- Reads a value in which at most `depth` more values with parts are open at once. -/
def readItem : Nat → List Char → Option (Item × List Char)
  | 0, '[' :: _ => none
  | 0, '{' :: _ => none
  | depth + 1, '[' :: rest =>
    (readItems (readItem depth) (rest.length + 1) rest).map fun (items, rest) =>
      (.array items, rest)
  | depth + 1, '{' :: rest =>
    match skipSpaces rest with
    | '}' :: rest => some (.table .braces [], rest)
    | rest =>
      (readEntries (readItem depth) (rest.length + 1) {} rest).map fun (table, rest) =>
        (.table .braces table.entries, rest)
  | _, chars => readScalar chars

def readLineEnd (chars : List Char) : Option (List Char) := do
  let rest ← skipComment (skipSpaces chars)
  if rest.isEmpty then some [] else readNewline rest

def readLines : Nat → Table → List String → List Char → Option Table
  | 0, _, _, _ => none
  | bound + 1, table, here, chars =>
    match skipSpaces chars with
    | [] => some table
    | '[' :: '[' :: rest => do
      let (path, rest) ← readKey rest
      let rest ← readLineEnd (← readMark ']' (← readMark ']' rest))
      readLines bound (← table.openNext path) path rest
    | '[' :: rest => do
      let (path, rest) ← readKey rest
      let rest ← readLineEnd (← readMark ']' rest)
      readLines bound (← table.openTable path) path rest
    | char :: rest =>
      if char == '#' || char == '\n' || char == '\r' then do
        readLines bound table here (← readLineEnd (char :: rest))
      else do
        let (path, item, rest) ← readEntry (readItem depthLimit) (char :: rest)
        let rest ← readLineEnd rest
        let table ← Table.editAt false (fun _ inner => inner.assign path item) here .header table
        readLines bound table here rest

def read? (source : String) : Option Table :=
  let chars := match source.toList with
    | '\uFEFF' :: rest => rest
    | chars => chars
  readLines (chars.length + 1) {} [] chars

end EventScript.Toml
