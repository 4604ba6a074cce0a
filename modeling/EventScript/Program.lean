import EventScript.Number.Binary

/-!
Programs: what a script means once its text has been read. Every expression and statement carries
the line it began on, for diagnostics.
-/

namespace EventScript

inductive BinaryOp where
  | add
  | subtract
  | multiply
  | divide
  | remainder
  | power
  | equal
  | notEqual
  | less
  | lessEqual
  | greater
  | greaterEqual
  | both
  | either
  | contains
  deriving DecidableEq, Repr

def BinaryOp.symbol : BinaryOp → String
  | .add => "+"
  | .subtract => "-"
  | .multiply => "*"
  | .divide => "/"
  | .remainder => "%"
  | .power => "^"
  | .equal => "=="
  | .notEqual => "!="
  | .less => "<"
  | .lessEqual => "<="
  | .greater => ">"
  | .greaterEqual => ">="
  | .both => "and"
  | .either => "or"
  | .contains => "contains"

inductive UnaryOp where
  | negate
  | invert
  deriving DecidableEq, Repr

inductive CompoundOp where
  | add
  | subtract
  | multiply
  | divide
  deriving DecidableEq, Repr

def CompoundOp.symbol : CompoundOp → String
  | .add => "+="
  | .subtract => "-="
  | .multiply => "*="
  | .divide => "/="

inductive Literal where
  | null
  | bool (truth : Bool)
  | number (value : Double)
  | text (content : String)
  deriving DecidableEq

mutual

inductive Expr where
  | literal (line : Nat) (value : Literal)
  | reference (line : Nat) (name : String)
  | stored (line : Nat) (key : Expr)
  | binary (line : Nat) (op : BinaryOp) (left right : Expr)
  | unary (line : Nat) (op : UnaryOp) (operand : Expr)
  | call (line : Nat) (name : String) (arguments : List Expr)
  | index (line : Nat) (target position : Expr)
  | property (line : Nat) (target : Expr) (name : String)
  | list (line : Nat) (items : List Expr)
  | map (line : Nat) (entries : List (Expr × Expr))
  | template (line : Nat) (parts : List TemplatePart)
  | conditional (line : Nat) (condition yes no : Expr)

inductive TemplatePart where
  | text (content : String)
  | expr (value : Expr)

end

instance : Inhabited Expr := ⟨.literal 0 .null⟩

def Expr.line : Expr → Nat
  | .literal line _ | .reference line _ | .stored line _ | .binary line .. | .unary line ..
  | .call line .. | .index line .. | .property line .. | .list line _ | .map line _
  | .template line _ | .conditional line .. => line

structure BlockOf (σ : Type) where
  line : Nat
  statements : List σ

inductive Statement where
  | branch (line : Nat) (condition : Expr) (yes : BlockOf Statement)
      (alternatives : List (Expr × BlockOf Statement)) (otherwise : Option (BlockOf Statement))
  | whileLoop (line : Nat) (condition : Expr) (body : BlockOf Statement)
  | forLoop (line : Nat) (name : String) (subject : Expr) (body : BlockOf Statement)
  | repeatLoop (line : Nat) (count : Expr) (body : BlockOf Statement)
  | giveBack (line : Nat) (value : Option Expr)
  | breakOut (line : Nat)
  | continueOn (line : Nat)
  | assign (line : Nat) (name : String) (value : Expr)
  | compound (line : Nat) (name : String) (op : CompoundOp) (value : Expr)
  | store (line : Nat) (key value : Expr)
  | storeCompound (line : Nat) (key : Expr) (op : CompoundOp) (value : Expr)
  | effect (line : Nat) (name : String) (arguments : List Expr)
  | evaluate (line : Nat) (value : Expr)
  | wait (line : Nat) (delay : Expr)

abbrev Block := BlockOf Statement

instance : Inhabited Block := ⟨⟨0, []⟩⟩

namespace Statement

def line : Statement → Nat
  | .branch line .. | .whileLoop line .. | .forLoop line .. | .repeatLoop line .. | .giveBack line _
  | .breakOut line | .continueOn line | .assign line .. | .compound line .. | .store line ..
  | .storeCompound line .. | .effect line .. | .evaluate line _ | .wait line _ => line

def describe : Statement → String
  | .branch .. => "if"
  | .whileLoop .. => "while"
  | .forLoop .. => "for"
  | .repeatLoop .. => "repeat"
  | .giveBack .. => "return"
  | .breakOut _ => "break"
  | .continueOn _ => "continue"
  | .assign .. => "assignment"
  | .compound .. => "compound assignment"
  | .store .. => "persistent assignment"
  | .storeCompound .. => "persistent compound assignment"
  | .effect .. => "effect"
  | .evaluate .. => "expression"
  | .wait .. => "wait"

end Statement

structure EventHandler where
  event : String
  body : Block
  line : Nat

structure Command where
  name : String
  parameters : List String
  permission : Option String := none
  description : Option String := none
  aliases : List String := []
  body : Block := ⟨0, []⟩
  line : Nat

structure Function where
  name : String
  parameters : List String
  body : Block
  line : Nat

inductive Item where
  | event (handler : EventHandler)
  | command (command : Command)
  | function (function : Function)
  | stray (statement : Statement)

abbrev Program := List Item

end EventScript
