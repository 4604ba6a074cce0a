import EventScript.Document
import EventScript.Number.Decimal

/-!
Writing documents as JSON text, on one line or indented by two blanks a level. Numbers are written
with their shortest digits and always with a fraction or an exponent.
-/

namespace EventScript.Document

/-- The text of a number: positional while the exponent of the first digit lies between -5 and 15,
in scientific form with a signed exponent otherwise. Of two equally near shortest decimals the even
one is written. What is not finite has no text and becomes null. -/
def numberText (number : Double) : String :=
  match Number.shape number with
  | .finite negative mantissa power =>
    let body :=
      if mantissa = 0 then "0.0".toList
      else
        let (digits, leading) := (Number.shortest .even mantissa power).significant
        if -5 ≤ leading ∧ leading ≤ 15 then Number.positional digits leading ".0".toList
        else
          let fraction := match digits with
            | [] => []
            | [digit] => [digit]
            | digit :: more => digit :: '.' :: more
          let sign := if leading < 0 then '-' else '+'
          fraction ++ 'e' :: sign :: (Nat.repr leading.natAbs).toList
    String.ofList (if negative then '-' :: body else body)
  | _ => "null"

def hexDigit (digit : Nat) : Char := (Nat.digitChar digit)

def escape (char : Char) : List Char :=
  if char == '"' then ['\\', '"']
  else if char == '\\' then ['\\', '\\']
  else if char == '\n' then ['\\', 'n']
  else if char == '\r' then ['\\', 'r']
  else if char == '\t' then ['\\', 't']
  else if char.toNat = 8 then ['\\', 'b']
  else if char.toNat = 12 then ['\\', 'f']
  else if char.toNat < 32 then
    ['\\', 'u', '0', '0', hexDigit (char.toNat / 16), hexDigit (char.toNat % 16)]
  else [char]

def quoted (content : String) : String :=
  String.ofList ('"' :: content.toList.flatMap escape ++ ['"'])

mutual

def compact : Document → String
  | .null => "null"
  | .bool truth => if truth then "true" else "false"
  | .number double => numberText double
  | .text content => quoted content
  | .array items => "[" ++ String.intercalate "," (compactItems items) ++ "]"
  | .object members => "\x7b" ++ String.intercalate "," (compactMembers members) ++ "\x7d"

def compactItems : List Document → List String
  | [] => []
  | item :: rest => compact item :: compactItems rest

def compactMembers : List (String × Document) → List String
  | [] => []
  | (key, value) :: rest => (quoted key ++ ":" ++ compact value) :: compactMembers rest

end

def margin (level : Nat) : String := String.ofList (List.replicate (2 * level) ' ')

def block (opening closing : String) (level : Nat) (parts : List String) : String :=
  if parts.isEmpty then opening ++ closing
  else
    let lines := parts.map fun part => margin (level + 1) ++ part
    opening ++ "\n" ++ String.intercalate ",\n" lines ++ "\n" ++ margin level ++ closing

mutual

def indentedAt (level : Nat) : Document → String
  | .array items => block "[" "]" level (indentedItems level items)
  | .object members => block "\x7b" "\x7d" level (indentedMembers level members)
  | .null => "null"
  | .bool truth => if truth then "true" else "false"
  | .number double => numberText double
  | .text content => quoted content

def indentedItems (level : Nat) : List Document → List String
  | [] => []
  | item :: rest => indentedAt (level + 1) item :: indentedItems level rest

def indentedMembers (level : Nat) : List (String × Document) → List String
  | [] => []
  | (key, value) :: rest =>
    (quoted key ++ ": " ++ indentedAt (level + 1) value) :: indentedMembers level rest

end

def indented (document : Document) : String := indentedAt 0 document

end EventScript.Document
