import EventScript.Program.Statement
import EventScript.Token.Lexer

/-!
Reading whole scripts: event handlers, commands with their metadata, functions, and statements that
stand outside any of them.
-/

namespace EventScript.Program

open EventScript.Program.Parser

def nestingLimit : Nat := 64

def body : Parser Block := headedBlock (blockWithin nestingLimit)

def eventHandler : Parser EventHandler := do
  let token ← advance
  let words ← loop (fun words : List String => do
    match (← peek).kind with
    | .symbol .colon | .newline | .finish => return .inr words.reverse
    | _ => return .inl ((← advance).lexeme :: words)) []
  if words.isEmpty then fail .missingEventName
  else return ⟨String.intercalate " " words, ← body, token.line⟩

def parameterName : Parser String := do
  match (← peek).kind with
  | .reference name =>
    let _ ← advance
    return name
  | _ => expectName "parameter name"

def parameters : Parser (List String) := do
  if ← eat (.symbol .openParen) then separated .closeParen "')'" parameterName
  else return []

inductive Metadata where
  | permission
  | description
  | aliases

def metadataAhead : Parser (Option Metadata) := do
  match nameOf? (← peek) with
  | none => return none
  | some name =>
    if (← peekSecond).kind == .symbol .colon then
      match Text.lower name with
      | "permission" => return some .permission
      | "description" => return some .description
      | "aliases" => return some .aliases
      | _ => return none
    else return none

def metadataStep (content : String) : Parser (String ⊕ String) := do
  let token ← peek
  if isLineEnd token.kind || (← metadataAhead).isSome then return .inr content
  else
    let second := (← peekSecond).kind
    if token.kind == .symbol .colon && (second == .newline || second == .finish) then
      return .inr content
    else
      let _ ← advance
      let gap := if token.spaced && !content.isEmpty then " " else ""
      return .inl (content ++ gap ++ token.lexeme)

def metadataText : Parser String := loop metadataStep ""

def aliasNames (content : String) : List String :=
  (Text.wordsBy (fun char => char == ',' || Text.isBlank char) content).map Text.lower

def describeStep (command : Command) : Parser (Command ⊕ Command) := do
  match ← metadataAhead with
  | none => return .inr command
  | some metadata =>
    let _ ← advance
    let _ ← advance
    let content ← metadataText
    match metadata with
    | .permission => return .inl { command with permission := some content }
    | .description => return .inl { command with description := some content }
    | .aliases => return .inl { command with aliases := aliasNames content }

def command : Parser Command := do
  let token ← advance
  let name := Text.lower (← expectName "command name")
  let names ← parameters
  let described ← loop describeStep ⟨name, names, none, none, [], ⟨0, []⟩, token.line⟩
  return { described with body := ← body }

def function : Parser Function := do
  let token ← advance
  let name := Text.lower (← expectName "function name")
  let names ← parameters
  return ⟨name, names, ← body, token.line⟩

def item : Parser Item := do
  match (← peek).kind with
  | .keyword .onEvent => return .event (← eventHandler)
  | .keyword .command => return .command (← command)
  | .keyword .function => return .function (← function)
  | _ =>
    return .stray (← statement (Grammar.within nestingLimit).expression (blockWithin nestingLimit))

def itemStep (found : List Item) : Parser (List Item ⊕ Program) := do
  skipNewlines
  if (← peek).kind == .finish then return .inr found.reverse
  else return .inl ((← item) :: found)

def items : Parser Program := loop itemStep []

def ofTokens (tokens : List Token) : Except SourceError Program :=
  (items (Cursor.ofTokens tokens)).map (·.1)

def parse (source : String) : Except SourceError Program := do
  ofTokens (← Token.scan source)

end EventScript.Program
