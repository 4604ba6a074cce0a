import EventScript.Program.Cursor
import EventScript.Program.Template

/-!
The grammar of expressions, from loosest to tightest: conditional, or, and, not, comparison, sum,
product, minus sign, power, index and property, and the primary forms. Every form that holds another
expression inside, and every `not`, minus sign and exponent, stands one level deeper, and the number
of levels is limited.

Each level of the grammar is built from the one inside it, so the limit is also what the recursion
is on.
-/

namespace EventScript.Program

open EventScript.Program.Parser

structure Grammar where
  expression : Parser Expr
  inverted : Parser Expr
  signed : Parser Expr

namespace Grammar

def callArguments (inner : Grammar) : Parser (List Expr) := do
  expect (.symbol .openParen) "'('"
  separated .closeParen "')'" inner.expression

def mapEntry (inner : Grammar) : Parser (Expr × Expr) := do
  let key ← inner.expression
  expect (.symbol .colon) "':' in map literal"
  let value ← inner.expression
  return (key, value)

def isCallable : Keyword → Bool
  | .remove | .contains | .repeated | .add => true
  | _ => false

/-- An expression that begins with its own token. A word alone stands for itself as a text. -/
def primary (inner : Grammar) : Parser Expr := do
  let token ← advance
  let line := token.line
  let unexpected : Parser Expr := fun _ => .error ⟨.unexpected (describe token), line⟩
  match token.kind with
  | .number value => return .literal line (.number value)
  | .bool truth => return .literal line (.bool truth)
  | .null => return .literal line .null
  | .text content => return templateExpr line content
  | .reference name => return .reference line name
  | .stored key => return .stored line (keyExpr line key)
  | .word name =>
    if ← isNext (.symbol .openParen) then
      return .call line (Text.lower name) (← inner.callArguments)
    else return .literal line (.text name)
  | .keyword keyword =>
    if isCallable keyword then
      if ← isNext (.symbol .openParen) then
        return .call line (Text.lower token.lexeme) (← inner.callArguments)
      else unexpected
    else unexpected
  | .symbol .openParen =>
    let value ← inner.expression
    expect (.symbol .closeParen) "')'"
    return value
  | .symbol .openBracket => return .list line (← separated .closeBracket "']'" inner.expression)
  | .symbol .openBrace => return .map line (← separated .closeBrace "'\x7d'" inner.mapEntry)
  | _ => unexpected

/-- One index, property or method call after an expression. A bracket after a blank begins something
else. -/
def suffix (inner : Grammar) (target : Expr) : Parser (Expr ⊕ Expr) := do
  let token ← peek
  match token.kind with
  | .symbol .openBracket =>
    if token.spaced then return .inr target
    else
      let _ ← advance
      let position ← inner.expression
      expect (.symbol .closeBracket) "']'"
      return .inl (.index token.line target position)
  | .symbol .dot =>
    let _ ← advance
    let name := Text.lower (← expectName "property name")
    if ← isNext (.symbol .openParen) then
      return .inl (.call token.line name (target :: (← inner.callArguments)))
    else return .inl (.property token.line target name)
  | _ => return .inr target

def suffixed (inner : Grammar) : Parser Expr := do
  let target ← inner.primary
  loop inner.suffix target

/-- A power; the exponent may have a sign or be a power itself. -/
def power (inner : Grammar) : Parser Expr := do
  let base ← inner.suffixed
  if ← isNext (.symbol .caret) then
    let token ← advance
    let exponent ← inner.signed
    return .binary token.line .power base exponent
  else return base

def minus (inner : Grammar) : Parser Expr := do
  if ← isNext (.symbol .minus) then
    let token ← advance
    let operand ← inner.signed
    return .unary token.line .negate operand
  else inner.power

abbrev OperatorParser := Parser (Option (BinaryOp × Nat))

def operator (meaning : TokenKind → Option BinaryOp) : OperatorParser := do
  match meaning (← peek).kind with
  | some op =>
    let token ← advance
    return some (op, token.line)
  | none => return none

/-- Operands joined by operators of one level of precedence, grouped to the left. -/
def chain (operator : OperatorParser) (operand : Parser Expr) : Parser Expr := do
  let first ← operand
  loop (fun left : Expr => do
    match ← operator with
    | some (op, line) =>
      let right ← operand
      return .inl (.binary line op left right)
    | none => return .inr left) first

def productOp : TokenKind → Option BinaryOp
  | .symbol .star => some .multiply
  | .symbol .slash => some .divide
  | .symbol .percent => some .remainder
  | _ => none

def sumOp : TokenKind → Option BinaryOp
  | .symbol .plus => some .add
  | .symbol .minus => some .subtract
  | _ => none

def comparisonOp : TokenKind → Option BinaryOp
  | .symbol .equal => some .equal
  | .symbol .notEqual => some .notEqual
  | .keyword .differs => some .notEqual
  | .symbol .less => some .less
  | .symbol .lessEqual => some .lessEqual
  | .symbol .greater => some .greater
  | .symbol .greaterEqual => some .greaterEqual
  | .keyword .contains => some .contains
  | .keyword .equals => some .equal
  | _ => none

def comparisonOperator : OperatorParser := do
  if (← peek).kind == .keyword .equals && (← peekSecond).kind == .keyword .negation then
    let _ ← advance
    let token ← advance
    return some (.notEqual, token.line)
  else operator comparisonOp

def andOp : TokenKind → Option BinaryOp
  | .keyword .also => some .both
  | _ => none

def orOp : TokenKind → Option BinaryOp
  | .keyword .either => some .either
  | _ => none

def product (inner : Grammar) : Parser Expr := chain (operator productOp) inner.minus

def sum (inner : Grammar) : Parser Expr := chain (operator sumOp) inner.product

def comparison (inner : Grammar) : Parser Expr := chain comparisonOperator inner.sum

def invert (inner : Grammar) : Parser Expr := do
  let kind := (← peek).kind
  if kind == .keyword .negation || kind == .symbol .bang then
    let token ← advance
    let operand ← inner.inverted
    return .unary token.line .invert operand
  else inner.comparison

def conjunction (inner : Grammar) : Parser Expr := chain (operator andOp) inner.invert

def disjunction (inner : Grammar) : Parser Expr := chain (operator orOp) inner.conjunction

def conditional (inner : Grammar) : Parser Expr := do
  let condition ← inner.disjunction
  if ← isNext (.symbol .question) then
    let token ← advance
    let yes ← inner.expression
    expect (.symbol .colon) "':' in conditional expression"
    let no ← inner.expression
    return .conditional token.line condition yes no
  else return condition

def within : Nat → Grammar
  | 0 => ⟨tooDeep, tooDeep, tooDeep⟩
  | room + 1 =>
    let inner := within room
    ⟨inner.conditional, inner.invert, inner.minus⟩

end Grammar

end EventScript.Program
