import EventScript.SourceError
import EventScript.Number.Spelling
import EventScript.Text.Case
import EventScript.Text.Search
import EventScript.Token

/-!
One token at the start of a text. A reader looks at the first character and at what follows it, and
says which kind of token begins there and how many of the following characters belong to it.
-/

namespace EventScript.Token

def isWordChar (char : Char) : Bool := Text.isLetterOrNumeral char || char == '_'

/-- What a reader found: the kind, how many characters after the first one belong to the token, and
for a quoted text its content, which then is the lexeme. -/
structure Piece where
  kind : TokenKind
  more : Nat
  content : Option String := none

def unescaped (char : Char) : Char :=
  if char == 'n' then '\n' else if char == 't' then '\t' else char

/-- The content of a quoted text after its opening quote, and the number of characters up to and
with the closing one. -/
def quotedBody (quote : Char) : List Char → Option (List Char × Nat)
  | [] => none
  | '\\' :: [] => none
  | '\\' :: escaped :: rest =>
    (quotedBody quote rest).map fun (content, count) => (unescaped escaped :: content, count + 2)
  | char :: rest =>
    if char == quote then some ([], 1)
    else (quotedBody quote rest).map fun (content, count) => (char :: content, count + 1)

def opensVariable (after : List Char) : Bool :=
  match after with
  | '_' :: '_' :: _ => false
  | first :: _ => isWordChar first && after.contains '%'
  | [] => false

def startsWithWordChar : List Char → Bool
  | first :: _ => isWordChar first
  | [] => false

def startsWithDigit : List Char → Bool
  | first :: _ => first.isDigit
  | [] => false

def numberLength (chars : List Char) : Nat :=
  let whole := (chars.takeWhile Char.isDigit).length
  match chars.drop whole with
  | '.' :: fraction =>
    let places := (fraction.takeWhile Char.isDigit).length
    if places = 0 then whole else whole + 1 + places
  | _ => whole

def wordLength : List Char → Nat
  | [] => 0
  | char :: rest =>
    if isWordChar char then wordLength rest + 1
    else if char == '-' then
      match rest with
      | next :: _ => if Text.isLetterOrNumeral next then wordLength rest + 1 else 0
      | [] => 0
    else 0

def apostropheLength (word after : List Char) : Nat :=
  if word.map Char.toLower == ['i', 's', 'n'] then
    match after with
    | '\'' :: letter :: rest =>
      if letter.toLower == 't' && !startsWithWordChar rest then 2 else 0
    | _ => 0
  else 0

def wordKind (word : String) : TokenKind :=
  match Text.lower word with
  | "on" => .keyword .onEvent
  | "command" => .keyword .command
  | "function" => .keyword .function
  | "if" => .keyword .ifTrue
  | "elseif" | "else-if" | "elif" => .keyword .elseIf
  | "else" => .keyword .otherwise
  | "while" => .keyword .whileTrue
  | "for" => .keyword .forEach
  | "in" => .keyword .inside
  | "repeat" => .keyword .repeated
  | "times" => .keyword .times
  | "return" => .keyword .returned
  | "break" | "stop" => .keyword .breaking
  | "continue" => .keyword .continuing
  | "wait" => .keyword .wait
  | "tick" | "ticks" => .keyword .ticks
  | "second" | "seconds" => .keyword .seconds
  | "and" => .keyword .also
  | "or" => .keyword .either
  | "not" => .keyword .negation
  | "is" => .keyword .equals
  | "isnt" | "isn't" => .keyword .differs
  | "contains" => .keyword .contains
  | "set" => .keyword .assign
  | "to" => .keyword .towards
  | "add" => .keyword .add
  | "remove" | "subtract" => .keyword .remove
  | "from" => .keyword .away
  | "true" => .bool true
  | "false" => .bool false
  | "null" | "none" | "nil" => .null
  | _ => .word word

def symbolAt (first : Char) (after : List Char) : Option (Symbol × Nat) :=
  match first, after with
  | '+', '=' :: _ => some (.plusAssign, 1)
  | '+', _ => some (.plus, 0)
  | '-', '=' :: _ => some (.minusAssign, 1)
  | '-', '>' :: _ => some (.arrow, 1)
  | '-', _ => some (.minus, 0)
  | '*', '=' :: _ => some (.starAssign, 1)
  | '*', _ => some (.star, 0)
  | '/', '=' :: _ => some (.slashAssign, 1)
  | '/', _ => some (.slash, 0)
  | '%', _ => some (.percent, 0)
  | '^', _ => some (.caret, 0)
  | '=', '=' :: _ => some (.equal, 1)
  | '=', _ => some (.assign, 0)
  | '!', '=' :: _ => some (.notEqual, 1)
  | '!', _ => some (.bang, 0)
  | '<', '=' :: _ => some (.lessEqual, 1)
  | '<', _ => some (.less, 0)
  | '>', '=' :: _ => some (.greaterEqual, 1)
  | '>', _ => some (.greater, 0)
  | '?', _ => some (.question, 0)
  | '(', _ => some (.openParen, 0)
  | ')', _ => some (.closeParen, 0)
  | '[', _ => some (.openBracket, 0)
  | ']', _ => some (.closeBracket, 0)
  | '\x7b', _ => some (.openBrace, 0)
  | '\x7d', _ => some (.closeBrace, 0)
  | ':', _ => some (.colon, 0)
  | ',', _ => some (.comma, 0)
  | '.', _ => some (.dot, 0)
  | _, _ => none

def numberPiece (negative : Bool) (digits : List Char) (more : Nat) : Piece :=
  ⟨.number ((Number.readDecimal? negative digits).getD (Number.zero false)), more, none⟩

/-- The token that begins with `first`, which is neither blank nor a comment mark; `operand` says
whether an operand is due. -/
def pieceAt (operand : Bool) (first : Char) (after : List Char) : Except SourceFault Piece :=
  if first == '"' || first == '\'' then
    match quotedBody first after with
    | some (content, more) =>
      let content := String.ofList content
      .ok ⟨.text content, more, some content⟩
    | none => .error .unterminatedText
  else if first == '%' && opensVariable after then
    let name := after.takeWhile (· != '%')
    .ok ⟨.reference (String.ofList name), name.length + 1, none⟩
  else if first == '%' && operand && startsWithWordChar after then .error .unterminatedVariable
  else if first == '_' && after.head? == some '_' then
    match Text.indexIn ['_', '_'] after.tail with
    | some position =>
      .ok ⟨.stored (String.ofList (after.tail.take position)), position + 3, none⟩
    | none => .error .unterminatedStored
  else if first.isDigit then
    let length := numberLength (first :: after)
    .ok (numberPiece false ((first :: after).take length) (length - 1))
  else if first == '-' && operand && startsWithDigit after then
    let length := numberLength after
    .ok (numberPiece true (after.take length) length)
  else if Text.isLetter first || first == '_' then
    let length := wordLength (first :: after)
    let plain := (first :: after).take length
    let more := length - 1 + apostropheLength plain (after.drop (length - 1))
    .ok ⟨wordKind (String.ofList (first :: after.take more)), more, none⟩
  else
    match symbolAt first after with
    | some (symbol, more) => .ok ⟨.symbol symbol, more, none⟩
    | none => .error (.unexpectedChar first)

end EventScript.Token
