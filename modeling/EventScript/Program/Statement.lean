import EventScript.Number.Binary
import EventScript.Program.Expression

/-!
The grammar of statements and blocks. A statement is told by its first token. A block is the deeper
indented lines after a header, or nothing; every block stands one level deeper than its header.
-/

namespace EventScript.Program

open EventScript.Program.Parser

def ticksPerSecond : Nat := 20

inductive Target where
  | named (name : String)
  | stored (key : String)

def lineContains (kind : TokenKind) : Parser Bool := do
  let line := (← get).rest.takeWhile fun token => token.kind != .newline && token.kind != .finish
  return line.any (·.kind == kind)

def isLineEnd : TokenKind → Bool
  | .newline | .dedent | .finish | .indent => true
  | _ => false

def beginsStatement (joiner : TokenKind) : Parser Bool := do
  if (← peekSecond).kind == .symbol .openParen then lineContains joiner else return true

def endStatement : Parser Unit := do
  match (← peek).kind with
  | .newline =>
    let _ ← advance
  | .dedent | .finish => return ()
  | _ => expected "end of line"

def target : Parser Target := do
  match (← peek).kind with
  | .reference name =>
    let _ ← advance
    return .named name
  | .stored key =>
    let _ ← advance
    return .stored key
  | _ => return .named (← expectName "variable")

def setStatement (line : Nat) (expression : Parser Expr) : Parser Statement := do
  let _ ← advance
  let goal ← target
  expect (.keyword .towards) "'to'"
  let value ← expression
  match goal with
  | .named name => return .assign line name value
  | .stored key => return .store line (keyExpr value.line key) value

def adjustStatement (line : Nat) (op : BinaryOp) (joiner : Keyword) (what : String)
    (expression : Parser Expr) : Parser Statement := do
  let token ← advance
  let amount ← expression
  expect (.keyword joiner) what
  match ← target with
  | .named name =>
    return .assign line name (.binary token.line op (.reference token.line name) amount)
  | .stored key =>
    let key := keyExpr token.line key
    return .store line key (.binary token.line op (.stored token.line key) amount)

def assignmentOp? : TokenKind → Option (Option CompoundOp)
  | .symbol .assign => some none
  | .symbol .plusAssign => some (some .add)
  | .symbol .minusAssign => some (some .subtract)
  | .symbol .starAssign => some (some .multiply)
  | .symbol .slashAssign => some (some .divide)
  | _ => none

def assignmentStatement (line : Nat) (goal : Target) (expression : Parser Expr) :
    Parser Statement := do
  match assignmentOp? (← peekSecond).kind with
  | none => return .evaluate line (← expression)
  | some op =>
    let token ← advance
    let _ ← advance
    let value ← expression
    match goal, op with
    | .named name, none => return .assign line name value
    | .named name, some op => return .compound line name op value
    | .stored key, none => return .store line (keyExpr token.line key) value
    | .stored key, some op => return .storeCompound line (keyExpr token.line key) op value

def waitStatement (line : Nat) (expression : Parser Expr) : Parser Statement := do
  let _ ← advance
  let amount ← expression
  if ← eat (.keyword .seconds) then
    let factor := Expr.literal line (.number (Number.ofNat ticksPerSecond))
    return .wait line (.binary line .multiply amount factor)
  else
    let _ ← eat (.keyword .ticks)
    return .wait line amount

def returnStatement (line : Nat) (expression : Parser Expr) : Parser Statement := do
  let _ ← advance
  if isLineEnd (← peek).kind then return .giveBack line none
  else return .giveBack line (some (← expression))

def effectStatement (line : Nat) (name : String) (expression : Parser Expr) :
    Parser Statement := do
  let _ ← advance
  let arguments ← loop (fun arguments : List Expr => do
    if isLineEnd (← peek).kind then return .inr arguments.reverse
    else return .inl ((← expression) :: arguments)) []
  return .effect line (Text.lower name) arguments

def simpleStatement (line : Nat) (expression : Parser Expr) : Parser Statement := do
  let evaluate : Parser Statement := return .evaluate line (← expression)
  match (← peek).kind with
  | .keyword .wait => waitStatement line expression
  | .keyword .returned => returnStatement line expression
  | .keyword .breaking =>
    let _ ← advance
    return .breakOut line
  | .keyword .continuing =>
    let _ ← advance
    return .continueOn line
  | .keyword .assign => setStatement line expression
  | .keyword .add =>
    if ← beginsStatement (.keyword .towards) then
      adjustStatement line .add .towards "'to'" expression
    else evaluate
  | .keyword .remove =>
    if ← beginsStatement (.keyword .away) then
      adjustStatement line .subtract .away "'from'" expression
    else evaluate
  | .reference name => assignmentStatement line (.named name) expression
  | .stored key => assignmentStatement line (.stored key) expression
  | .word name =>
    if (← peekSecond).kind == .symbol .openParen then evaluate
    else effectStatement line name expression
  | _ => evaluate

def headedBlock (block : Parser Block) : Parser Block := do
  let _ ← eat (.symbol .colon)
  block

def branches (expression : Parser Expr) (block : Parser Block) :
    Parser (List (Expr × Block) × Option Block) :=
  loop (fun found : List (Expr × Block) => do
    skipNewlines
    let chained := (← peek).kind == .keyword .otherwise && (← peekSecond).kind == .keyword .ifTrue
    if chained || (← peek).kind == .keyword .elseIf then
      let _ ← advance
      if chained then
        let _ ← advance
      let condition ← expression
      let body ← headedBlock block
      return .inl ((condition, body) :: found)
    else if ← eat (.keyword .otherwise) then
      let body ← headedBlock block
      return .inr (found.reverse, some body)
    else return .inr (found.reverse, none)) []

def ifStatement (expression : Parser Expr) (block : Parser Block) : Parser Statement := do
  let token ← advance
  let condition ← expression
  let yes ← headedBlock block
  let (alternatives, otherwise) ← branches expression block
  return .branch token.line condition yes alternatives otherwise

def forStatement (expression : Parser Expr) (block : Parser Block) : Parser Statement := do
  let token ← advance
  let name ← match (← peek).kind with
    | .reference name => do
      let _ ← advance
      pure name
    | _ => expectName "loop variable"
  expect (.keyword .inside) "'in'"
  let subject ← expression
  let body ← headedBlock block
  return .forLoop token.line name subject body

def whileStatement (line : Nat) (expression : Parser Expr) (block : Parser Block) :
    Parser Statement := do
  let _ ← advance
  let condition ← expression
  let body ← headedBlock block
  return .whileLoop line condition body

def repeatStatement (line : Nat) (expression : Parser Expr) (block : Parser Block) :
    Parser Statement := do
  let _ ← advance
  let count ← expression
  let _ ← eat (.keyword .times)
  let body ← headedBlock block
  return .repeatLoop line count body

def statement (expression : Parser Expr) (block : Parser Block) : Parser Statement := do
  let line := (← peek).line
  let simple : Parser Statement := do
    let result ← simpleStatement line expression
    endStatement
    return result
  match (← peek).kind with
  | .keyword .ifTrue => ifStatement expression block
  | .keyword .whileTrue => whileStatement line expression block
  | .keyword .forEach => forStatement expression block
  | .keyword .repeated =>
    if (← beginsStatement (.keyword .times)) || (← lineContains (.symbol .colon)) then
      repeatStatement line expression block
    else simple
  | _ => simple

def blockStatements (statement : Parser Statement) : Parser (List Statement) :=
  loop (fun found : List Statement => do
    skipNewlines
    let kind := (← peek).kind
    if kind == .dedent || kind == .finish then return .inr found.reverse
    else return .inl ((← statement) :: found)) []

def blockOf (statement : Option (Parser Statement)) : Parser Block := do
  let line := (← peek).line
  skipNewlines
  if ← eat .indent then
    match statement with
    | none => tooDeep
    | some statement =>
      let statements ← blockStatements statement
      let _ ← eat .dedent
      return ⟨line, statements⟩
  else return ⟨line, []⟩

def blockWithin : Nat → Parser Block
  | 0 => blockOf none
  | room + 1 => blockOf (some (statement (Grammar.within room).expression (blockWithin room)))

end EventScript.Program
