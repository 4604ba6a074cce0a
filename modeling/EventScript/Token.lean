import EventScript.Number.Binary

/-!
Tokens, the words of a script. Besides its kind a token keeps the text it was made from, the line it
stands on, and whether a blank or the start of a line came before it.
-/

namespace EventScript

inductive Keyword where
  | onEvent
  | command
  | function
  | ifTrue
  | elseIf
  | otherwise
  | whileTrue
  | forEach
  | inside
  | repeated
  | times
  | returned
  | breaking
  | continuing
  | wait
  | ticks
  | seconds
  | also
  | either
  | negation
  | equals
  | differs
  | contains
  | assign
  | towards
  | add
  | remove
  | away
  deriving DecidableEq, Repr

def Keyword.name : Keyword → String
  | .onEvent => "On"
  | .command => "Command"
  | .function => "Function"
  | .ifTrue => "If"
  | .elseIf => "ElseIf"
  | .otherwise => "Else"
  | .whileTrue => "While"
  | .forEach => "For"
  | .inside => "In"
  | .repeated => "Repeat"
  | .times => "Times"
  | .returned => "Return"
  | .breaking => "Break"
  | .continuing => "Continue"
  | .wait => "Wait"
  | .ticks => "Ticks"
  | .seconds => "Seconds"
  | .also => "And"
  | .either => "Or"
  | .negation => "Not"
  | .equals => "Is"
  | .differs => "Isnt"
  | .contains => "Contains"
  | .assign => "Set"
  | .towards => "To"
  | .add => "Add"
  | .remove => "Remove"
  | .away => "From"

inductive Symbol where
  | plus
  | plusAssign
  | minus
  | minusAssign
  | arrow
  | star
  | starAssign
  | slash
  | slashAssign
  | percent
  | caret
  | assign
  | equal
  | bang
  | notEqual
  | less
  | lessEqual
  | greater
  | greaterEqual
  | question
  | openParen
  | closeParen
  | openBracket
  | closeBracket
  | openBrace
  | closeBrace
  | colon
  | comma
  | dot
  deriving DecidableEq, Repr

def Symbol.name : Symbol → String
  | .plus => "Plus"
  | .plusAssign => "PlusAssign"
  | .minus => "Minus"
  | .minusAssign => "MinusAssign"
  | .arrow => "Arrow"
  | .star => "Star"
  | .starAssign => "StarAssign"
  | .slash => "Slash"
  | .slashAssign => "SlashAssign"
  | .percent => "Percent"
  | .caret => "Caret"
  | .assign => "Assign"
  | .equal => "Eq"
  | .bang => "Bang"
  | .notEqual => "Ne"
  | .less => "Lt"
  | .lessEqual => "Le"
  | .greater => "Gt"
  | .greaterEqual => "Ge"
  | .question => "Question"
  | .openParen => "LParen"
  | .closeParen => "RParen"
  | .openBracket => "LBracket"
  | .closeBracket => "RBracket"
  | .openBrace => "LBrace"
  | .closeBrace => "RBrace"
  | .colon => "Colon"
  | .comma => "Comma"
  | .dot => "Dot"

inductive TokenKind where
  | number (value : Double)
  | text (content : String)
  | word (name : String)
  | reference (name : String)
  | stored (key : String)
  | bool (truth : Bool)
  | null
  | keyword (meaning : Keyword)
  | symbol (mark : Symbol)
  | newline
  | indent
  | dedent
  | finish
  deriving DecidableEq

structure Token where
  kind : TokenKind
  lexeme : String
  line : Nat
  spaced : Bool
  deriving DecidableEq

namespace TokenKind

def isLayout : TokenKind → Bool
  | .indent | .dedent | .finish => true
  | _ => false

/-- Whether an operand is due after this token, so that a minus sign belongs to the number behind
it. -/
def startsOperand : TokenKind → Bool
  | .newline | .indent | .dedent => true
  | .symbol mark =>
    match mark with
    | .closeParen | .closeBracket | .closeBrace | .dot => false
    | _ => true
  | .keyword meaning =>
    match meaning with
    | .returned | .towards | .also | .either | .negation | .equals | .differs | .contains | .ifTrue
    | .elseIf | .whileTrue | .inside | .repeated | .wait | .assign | .add | .remove | .away
    | .forEach => true
    | _ => false
  | _ => false

end TokenKind

end EventScript
