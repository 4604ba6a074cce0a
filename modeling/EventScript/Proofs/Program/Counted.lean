import Mathlib
import EventScript.Proofs.Program.Progress

/-!
The grammar once more, with a counter of the expressions and blocks that are open. The counter goes
up on the way into one of them and down on the way out, and at the limit nothing more is opened. The
parsers call one another as deep as the tokens lead them, for which a number of calls is set aside.

What is read so is what the grammar reads that is built level by level, and the counter is left
where it was. The calls that are set aside never run out, and no loop stands still.
-/

namespace EventScript.Program

open EventScript.Program.Parser

abbrev Counted (α : Type) := StateT Nat Parser α

namespace Counted

variable {α σ : Type}

def enter : Counted Unit := do
  modify (· + 1)
  if nestingLimit < (← get) then tooDeep

def leave : Counted Unit := modify (· - 1)

def deeper (parser : Counted α) : Counted α := do
  enter
  let result ← parser
  leave
  return result

def withDepth : (σ ⊕ α) × Nat → (σ × Nat) ⊕ (α × Nat)
  | (.inl state, depth) => .inl (state, depth)
  | (.inr result, depth) => .inr (result, depth)

def loop (step : σ → Counted (σ ⊕ α)) (state : σ) : Counted α := fun depth =>
  Parser.loop (fun turn : σ × Nat => withDepth <$> step turn.1 turn.2) (state, depth)

def separated (closing : Symbol) (what : String) (item : Counted α) : Counted (List α) :=
  loop (fun items : List α => do
    if ← eat (.symbol closing) then return .inr items.reverse
    else
      let value ← item
      if ← eat (.symbol .comma) then return .inl (value :: items)
      else
        expect (.symbol closing) what
        return .inr (value :: items).reverse) []

structure Entries where
  expression : Counted Expr
  inverted : Counted Expr
  signed : Counted Expr

namespace Entries

def callArguments (inner : Entries) : Counted (List Expr) := do
  expect (.symbol .openParen) "'('"
  separated .closeParen "')'" inner.expression

def mapEntry (inner : Entries) : Counted (Expr × Expr) := do
  let key ← inner.expression
  expect (.symbol .colon) "':' in map literal"
  let value ← inner.expression
  return (key, value)

def primary (inner : Entries) : Counted Expr := do
  let token ← advance
  let line := token.line
  let unexpected : Parser Expr := fun _ => .error ⟨.unexpected (describe token), line⟩
  match token.kind with
  | .number value => return .literal line (.number value)
  | .bool truth => return .literal line (.bool truth)
  | .null => return .literal line .null
  | .text content => return templateExpr line content
  | .reference name => return .reference line name
  | .stored key => return .stored line (keyExpr line key)
  | .word name =>
    if ← isNext (.symbol .openParen) then
      return .call line (Text.lower name) (← inner.callArguments)
    else return .literal line (.text name)
  | .keyword keyword =>
    if Grammar.isCallable keyword then
      if ← isNext (.symbol .openParen) then
        return .call line (Text.lower token.lexeme) (← inner.callArguments)
      else unexpected
    else unexpected
  | .symbol .openParen =>
    let value ← inner.expression
    expect (.symbol .closeParen) "')'"
    return value
  | .symbol .openBracket => return .list line (← separated .closeBracket "']'" inner.expression)
  | .symbol .openBrace => return .map line (← separated .closeBrace "'\x7d'" inner.mapEntry)
  | _ => unexpected

def suffix (inner : Entries) (target : Expr) : Counted (Expr ⊕ Expr) := do
  let token ← peek
  match token.kind with
  | .symbol .openBracket =>
    if token.spaced then return .inr target
    else
      let _ ← advance
      let position ← inner.expression
      expect (.symbol .closeBracket) "']'"
      return .inl (.index token.line target position)
  | .symbol .dot =>
    let _ ← advance
    let name := Text.lower (← expectName "property name")
    if ← isNext (.symbol .openParen) then
      return .inl (.call token.line name (target :: (← inner.callArguments)))
    else return .inl (.property token.line target name)
  | _ => return .inr target

def suffixed (inner : Entries) : Counted Expr := do
  let target ← inner.primary
  loop inner.suffix target

def power (inner : Entries) : Counted Expr := do
  let base ← inner.suffixed
  if ← isNext (.symbol .caret) then
    let token ← advance
    let exponent ← inner.signed
    return .binary token.line .power base exponent
  else return base

def minus (inner : Entries) : Counted Expr := do
  if ← isNext (.symbol .minus) then
    let token ← advance
    let operand ← inner.signed
    return .unary token.line .negate operand
  else inner.power

def chain (operator : Grammar.OperatorParser) (operand : Counted Expr) : Counted Expr := do
  let first ← operand
  loop (fun left : Expr => do
    match ← operator with
    | some (op, line) =>
      let right ← operand
      return .inl (.binary line op left right)
    | none => return .inr left) first

def product (inner : Entries) : Counted Expr :=
  chain (Grammar.operator Grammar.productOp) inner.minus

def sum (inner : Entries) : Counted Expr := chain (Grammar.operator Grammar.sumOp) inner.product

def comparison (inner : Entries) : Counted Expr := chain Grammar.comparisonOperator inner.sum

def invert (inner : Entries) : Counted Expr := do
  let kind := (← peek).kind
  if kind == .keyword .negation || kind == .symbol .bang then
    let token ← advance
    let operand ← inner.inverted
    return .unary token.line .invert operand
  else inner.comparison

def conjunction (inner : Entries) : Counted Expr :=
  chain (Grammar.operator Grammar.andOp) inner.invert

def disjunction (inner : Entries) : Counted Expr :=
  chain (Grammar.operator Grammar.orOp) inner.conjunction

def conditional (inner : Entries) : Counted Expr := do
  let condition ← inner.disjunction
  if ← isNext (.symbol .question) then
    let token ← advance
    let yes ← inner.expression
    expect (.symbol .colon) "':' in conditional expression"
    let no ← inner.expression
    return .conditional token.line condition yes no
  else return condition

def within : Nat → Entries
  | 0 => ⟨fail .noProgress, fail .noProgress, fail .noProgress⟩
  | calls + 1 =>
    let inner := within calls
    ⟨deeper inner.conditional, deeper inner.invert, deeper inner.minus⟩

end Entries

def setStatement (line : Nat) (expression : Counted Expr) : Counted Statement := do
  let _ ← advance
  let goal ← target
  expect (.keyword .towards) "'to'"
  let value ← expression
  match goal with
  | .named name => return .assign line name value
  | .stored key => return .store line (keyExpr value.line key) value

def adjustStatement (line : Nat) (op : BinaryOp) (joiner : Keyword) (what : String)
    (expression : Counted Expr) : Counted Statement := do
  let token ← advance
  let amount ← expression
  expect (.keyword joiner) what
  match ← target with
  | .named name =>
    return .assign line name (.binary token.line op (.reference token.line name) amount)
  | .stored key =>
    let key := keyExpr token.line key
    return .store line key (.binary token.line op (.stored token.line key) amount)

def here : Parser Cursor := get

def rewind (start : Cursor) : Parser Unit := set start

def assigned (line : Nat) (token : Token) (value : Expr) :
    Target → Option CompoundOp → Statement
  | .named name, none => .assign line name value
  | .named name, some op => .compound line name op value
  | .stored key, none => .store line (keyExpr token.line key) value
  | .stored key, some op => .storeCompound line (keyExpr token.line key) op value

def assignmentStatement (line : Nat) (goal : Target) (expression : Counted Expr) :
    Counted Statement := do
  let start ← here
  let token ← advance
  match assignmentOp? (← peek).kind with
  | none =>
    rewind start
    return .evaluate line (← expression)
  | some op =>
    let _ ← advance
    return assigned line token (← expression) goal op

def waitStatement (line : Nat) (expression : Counted Expr) : Counted Statement := do
  let _ ← advance
  let amount ← expression
  if ← eat (.keyword .seconds) then
    let factor := Expr.literal line (.number (Number.ofNat ticksPerSecond))
    return .wait line (.binary line .multiply amount factor)
  else
    let _ ← eat (.keyword .ticks)
    return .wait line amount

def returnStatement (line : Nat) (expression : Counted Expr) : Counted Statement := do
  let _ ← advance
  if isLineEnd (← peek).kind then return .giveBack line none
  else return .giveBack line (some (← expression))

def effectStatement (line : Nat) (name : String) (expression : Counted Expr) :
    Counted Statement := do
  let _ ← advance
  let arguments ← loop (fun arguments : List Expr => do
    if isLineEnd (← peek).kind then return .inr arguments.reverse
    else return .inl ((← expression) :: arguments)) []
  return .effect line (Text.lower name) arguments

def simpleStatement (line : Nat) (expression : Counted Expr) : Counted Statement := do
  let evaluate : Counted Statement := return .evaluate line (← expression)
  match (← peek).kind with
  | .keyword .wait => waitStatement line expression
  | .keyword .returned => returnStatement line expression
  | .keyword .breaking =>
    let _ ← advance
    return .breakOut line
  | .keyword .continuing =>
    let _ ← advance
    return .continueOn line
  | .keyword .assign => setStatement line expression
  | .keyword .add =>
    if ← beginsStatement (.keyword .towards) then
      adjustStatement line .add .towards "'to'" expression
    else evaluate
  | .keyword .remove =>
    if ← beginsStatement (.keyword .away) then
      adjustStatement line .subtract .away "'from'" expression
    else evaluate
  | .reference name => assignmentStatement line (.named name) expression
  | .stored key => assignmentStatement line (.stored key) expression
  | .word name =>
    if (← peekSecond).kind == .symbol .openParen then evaluate
    else effectStatement line name expression
  | _ => evaluate

def headedBlock (block : Counted Block) : Counted Block := do
  let _ ← eat (.symbol .colon)
  block

def branches (expression : Counted Expr) (block : Counted Block) :
    Counted (List (Expr × Block) × Option Block) :=
  loop (fun found : List (Expr × Block) => do
    skipNewlines
    let chained := (← peek).kind == .keyword .otherwise && (← peekSecond).kind == .keyword .ifTrue
    if chained || (← peek).kind == .keyword .elseIf then
      let _ ← advance
      if chained then
        let _ ← advance
      let condition ← expression
      let body ← headedBlock block
      return .inl ((condition, body) :: found)
    else if ← eat (.keyword .otherwise) then
      let body ← headedBlock block
      return .inr (found.reverse, some body)
    else return .inr (found.reverse, none)) []

def ifStatement (expression : Counted Expr) (block : Counted Block) : Counted Statement := do
  let token ← advance
  let condition ← expression
  let yes ← headedBlock block
  let (alternatives, otherwise) ← branches expression block
  return .branch token.line condition yes alternatives otherwise

def forStatement (expression : Counted Expr) (block : Counted Block) : Counted Statement := do
  let token ← advance
  let name ← match (← peek).kind with
    | .reference name => do
      let _ ← advance
      pure name
    | _ => expectName "loop variable"
  expect (.keyword .inside) "'in'"
  let subject ← expression
  let body ← headedBlock block
  return .forLoop token.line name subject body

def whileStatement (line : Nat) (expression : Counted Expr) (block : Counted Block) :
    Counted Statement := do
  let _ ← advance
  let condition ← expression
  let body ← headedBlock block
  return .whileLoop line condition body

def repeatStatement (line : Nat) (expression : Counted Expr) (block : Counted Block) :
    Counted Statement := do
  let _ ← advance
  let count ← expression
  let _ ← eat (.keyword .times)
  let body ← headedBlock block
  return .repeatLoop line count body

def statement (expression : Counted Expr) (block : Counted Block) : Counted Statement := do
  let line := (← peek).line
  let simple : Counted Statement := do
    let result ← simpleStatement line expression
    endStatement
    return result
  match (← peek).kind with
  | .keyword .ifTrue => ifStatement expression block
  | .keyword .whileTrue => whileStatement line expression block
  | .keyword .forEach => forStatement expression block
  | .keyword .repeated =>
    if (← beginsStatement (.keyword .times)) || (← lineContains (.symbol .colon)) then
      repeatStatement line expression block
    else simple
  | _ => simple

def blockStatements (statement : Counted Statement) : Counted (List Statement) :=
  loop (fun found : List Statement => do
    skipNewlines
    let kind := (← peek).kind
    if kind == .dedent || kind == .finish then return .inr found.reverse
    else return .inl ((← statement) :: found)) []

def blockOf (statement : Counted Statement) : Counted Block := do
  let line := (← peek).line
  skipNewlines
  if ← eat .indent then
    deeper do
      let statements ← blockStatements statement
      let _ ← eat .dedent
      return ⟨line, statements⟩
  else return ⟨line, []⟩

def blockWithin : Nat → Counted Block
  | 0 => fail .noProgress
  | calls + 1 => blockOf (statement (Entries.within calls).expression (blockWithin calls))

def statementWithin (calls : Nat) : Counted Statement :=
  statement (Entries.within calls).expression (blockWithin calls)

def callLimit : Nat := nestingLimit + 1

def body : Counted Block := headedBlock (blockWithin callLimit)

def eventHandler : Counted EventHandler := do
  let token ← advance
  let words ← loop (fun words : List String => do
    match (← peek).kind with
    | .symbol .colon | .newline | .finish => return .inr words.reverse
    | _ => return .inl ((← advance).lexeme :: words)) []
  if words.isEmpty then fail .missingEventName
  else return ⟨String.intercalate " " words, ← body, token.line⟩

def command : Counted Command := do
  let token ← advance
  let name := Text.lower (← expectName "command name")
  let names ← parameters
  let described ← loop (fun command : Command => do describeStep command)
    ⟨name, names, none, none, [], ⟨0, []⟩, token.line⟩
  return { described with body := ← body }

def function : Counted Function := do
  let token ← advance
  let name := Text.lower (← expectName "function name")
  let names ← parameters
  return ⟨name, names, ← body, token.line⟩

def item : Counted Item := do
  match (← peek).kind with
  | .keyword .onEvent => return .event (← eventHandler)
  | .keyword .command => return .command (← command)
  | .keyword .function => return .function (← function)
  | _ => return .stray (← statementWithin callLimit)

def items : Counted Program :=
  loop (fun found : List Item => do
    skipNewlines
    if (← peek).kind == .finish then return .inr found.reverse
    else return .inl ((← item) :: found)) []

def ofTokens (tokens : List Token) : Except SourceError Program :=
  (items 0 (Cursor.ofTokens tokens)).map fun outcome => outcome.1.1

end Counted

end EventScript.Program
