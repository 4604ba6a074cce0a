import EventScript.SourceError
import EventScript.Text.Case
import EventScript.Token

/-!
A position in a row of tokens, and the parsers that move it. Past the last token there is an endless
supply of end marks on the line of the last one.
-/

namespace EventScript.Program

structure Cursor where
  rest : List Token
  endLine : Nat

namespace Cursor

def ofTokens (tokens : List Token) : Cursor :=
  ⟨tokens, (tokens.getLast?.map (·.line)).getD 1⟩

def length (cursor : Cursor) : Nat := cursor.rest.length

def endMark (cursor : Cursor) : Token := ⟨.finish, "", cursor.endLine, true⟩

def peek (cursor : Cursor) : Token := cursor.rest.headD cursor.endMark

def peekSecond (cursor : Cursor) : Token := cursor.rest.tail.headD cursor.endMark

def next (cursor : Cursor) : Cursor := { cursor with rest := cursor.rest.tail }

end Cursor

def describe (token : Token) : String :=
  match token.kind with
  | .finish => "end of file"
  | .newline => "end of line"
  | .indent => "indent"
  | .dedent => "dedent"
  | .text content => "\"" ++ content ++ "\""
  | _ => "'" ++ token.lexeme ++ "'"

def nameOf? (token : Token) : Option String :=
  match token.kind with
  | .text _ | .reference _ | .stored _ | .number _ => none
  | _ =>
    match token.lexeme.toList with
    | first :: _ => if Text.isLetter first || first == '_' then some token.lexeme else none
    | [] => none

/-- A parser takes tokens from the cursor and gives a result, or fails for the whole script. -/
abbrev Parser (α : Type) := StateT Cursor (Except SourceError) α

namespace Parser

def peek : Parser Token := return (← get).peek

def peekSecond : Parser Token := return (← get).peekSecond

def advance : Parser Token := fun cursor => .ok (cursor.peek, cursor.next)

def fail {α : Type} (fault : SourceFault) : Parser α := fun cursor =>
  .error ⟨fault, cursor.peek.line⟩

def tooDeep {α : Type} : Parser α := fail .nestingTooDeep

def isNext (kind : TokenKind) : Parser Bool := return (← peek).kind == kind

def eat (kind : TokenKind) : Parser Bool := do
  if ← isNext kind then
    let _ ← advance
    return true
  else return false

def expected {α : Type} (what : String) : Parser α := fun cursor =>
  .error ⟨.expected what (describe cursor.peek), cursor.peek.line⟩

def expect (kind : TokenKind) (what : String) : Parser Unit := do
  if ← isNext kind then
    let _ ← advance
  else expected what

def expectName (what : String) : Parser String := do
  match nameOf? (← peek) with
  | some name =>
    let _ ← advance
    return name
  | none => expected what

/-- Repeats a step until it gives a result. Every round but the last has to take a token. -/
def loop {σ α : Type} (step : σ → Parser (σ ⊕ α)) (state : σ) (cursor : Cursor) :
    Except SourceError (α × Cursor) :=
  match step state cursor with
  | .error error => .error error
  | .ok (.inr result, after) => .ok (result, after)
  | .ok (.inl state, after) =>
    if after.length < cursor.length then loop step state after
    else .error ⟨.noProgress, after.peek.line⟩
termination_by cursor.length

def skipNewlines : Parser Unit :=
  loop (fun _ : Unit => do if ← eat .newline then return .inl () else return .inr ()) ()

/-- Items between commas up to a closing symbol, whose opening partner has been taken. A comma may
stand before the closing symbol. -/
def separated {α : Type} (closing : Symbol) (what : String) (item : Parser α) : Parser (List α) :=
  loop (fun items : List α => do
    if ← eat (.symbol closing) then return .inr items.reverse
    else
      let value ← item
      if ← eat (.symbol .comma) then return .inl (value :: items)
      else
        expect (.symbol closing) what
        return .inr (value :: items).reverse) []

end Parser

end EventScript.Program
