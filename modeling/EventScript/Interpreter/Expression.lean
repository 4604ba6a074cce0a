import EventScript.Builtin.Call
import EventScript.Interpreter.Basic
import EventScript.Value.Arithmetic
import EventScript.Value.Comparison

/-!
What an expression gives, once it is known what its parts give and what the body of a function does.
-/

namespace EventScript

structure Setting (σ : Type) where
  functions : Dictionary Function := {}
  effects : Effects σ := {}
  limits : Limits := {}
  machine : Machine := .strict

def Value.ofLiteral : Literal → Value
  | .null => .null
  | .bool truth => .bool truth
  | .number double => .number double
  | .text content => .text content

namespace BinaryOp

/-- The operators on values. The two connectives give their right operand here; whether that operand
is reached at all has been decided before. -/
def apply (op : BinaryOp) (left right : Value) (heap : Heap) : Option Value × Heap :=
  match op with
  | .add =>
    let (sum, heap) := left.add heap right
    (some sum, heap)
  | .subtract => (some (left.subtract right), heap)
  | .multiply => (some (left.multiply right), heap)
  | .divide => (some (left.divide right), heap)
  | .remainder => (some (left.remainder right), heap)
  | .power => (some (left.power right), heap)
  | .equal => (some (.bool (left.equal right)), heap)
  | .notEqual => (some (.bool !left.equal right), heap)
  | .less => (some (.bool (left.compare heap right).isLT), heap)
  | .lessEqual => (some (.bool (left.compare heap right).isLE), heap)
  | .greater => (some (.bool (left.compare heap right).isGT), heap)
  | .greaterEqual => (some (.bool (left.compare heap right).isGE), heap)
  | .contains => ((left.contains heap right).map .bool, heap)
  | .both | .either => (some right, heap)

def decidedBy (op : BinaryOp) (left : Bool) : Bool :=
  match op with
  | .both => !left
  | .either => left
  | _ => false

end BinaryOp

def CompoundOp.apply (op : CompoundOp) (left right : Value) (heap : Heap) : Value × Heap :=
  match op with
  | .add => left.add heap right
  | .subtract => (left.subtract right, heap)
  | .multiply => (left.multiply right, heap)
  | .divide => (left.divide right, heap)

def UnaryOp.apply (op : UnaryOp) (operand : Value) (heap : Heap) : Value :=
  match op with
  | .negate => operand.negate
  | .invert => .bool !operand.isTrue heap

/-- The item of a list at a position, or the entry of a map under a text; null if there is none. The
map is held while the text is made, and a map at its own text never answers. -/
def Value.at (heap : Heap) (target position : Value) : Option Value :=
  match target with
  | .list place =>
    let index := position.toInteger
    some (if index < 0 then .null else (heap.list place).getD index.toNat .null)
  | .map place =>
    (position.renderHolding heap place).map fun key => ((heap.map place).get? key).getD .null
  | _ => some .null

def Value.property (heap : Heap) (target : Value) (name : String) : Value :=
  match target with
  | .map place => ((heap.map place).get? name).getD .null
  | _ => .null

namespace Frame

/-- Binds the parameters to the arguments in order. A parameter without an argument is null, and
arguments without a parameter are dropped. -/
def bindAll (frame : Frame) : List String → List Value → Frame
  | [], _ => frame
  | parameter :: parameters, arguments =>
    bindAll (frame.set parameter (arguments.head?.getD .null)) parameters arguments.tail

def result (frame : Frame) : Value := if frame.returning then frame.returnValue else .null

end Frame

namespace Interpreter

variable {σ : Type}

def callBuiltin (machine : Machine) (name : String) (arguments : List Value) (line : Nat) :
    Run σ Value := fun state =>
  match Builtin.call? machine name arguments state.world.heap state.world.dice with
  | none => (.error (.failed (.script ("Unknown function: " ++ name ++ "()") line)), state)
  | some (outcome, heap, dice) =>
    let state := { state with world := { state.world with heap, dice } }
    match outcome with
    | .ok value => (.ok value, state)
    | .error (.failed error) => (.error (.failed (.script error.message line)), state)
    | .error (.lost loss) => (.error (.lost loss), state)

/-- Calls a function of the script: `enter` makes its frame, and its parameters are bound after
that. Its body cannot pause. -/
def callFunction (limits : Limits) (enter : Frame → Frame) (runBody : Block → Run σ Flow)
    (function : Function) (arguments : List Value) (line : Nat) : Run σ Value := do
  let frame ← Run.read (·.frame)
  if limits.depth ≤ frame.depth then Run.fail (.callDepth limits.depth)
  else
    let child := (enter frame).bindAll function.parameters arguments
    let (flow, left) ← Run.inFrame child (runBody function.body)
    match flow with
    | .completed => pure left.result
    | .suspended .. => Run.fail (.script "wait is not supported inside functions" line)

def call (setting : Setting σ) (enter : Frame → Frame) (runBody : Block → Run σ Flow)
    (name : String) (arguments : List Value) (line : Nat) : Run σ Value :=
  match setting.functions.get? name with
  | some function => callFunction setting.limits enter runBody function arguments line
  | none => callBuiltin setting.machine name arguments line

/-- What an expression gives: `readVariable` reads a variable, `eval` evaluates the parts, and
`call` calls a function with arguments for the expression on a line. -/
def evalParts (readVariable : String → Run σ Value) (eval : Expr → Run σ Value)
    (call : String → List Value → Nat → Run σ Value) : Expr → Run σ Value
  | .literal _ value => pure (.ofLiteral value)
  | .reference _ name => readVariable name
  | .stored _ key => do
    let key ← Run.render (← eval key)
    Run.stored key
  | .binary _ op left right => do
    let left ← eval left
    if op.decidedBy (← Run.isTrue left) then pure left
    else
      let right ← eval right
      Run.await (← Run.onHeap (op.apply left right))
  | .unary _ op operand => do
    let operand ← eval operand
    Run.read fun state => op.apply operand state.world.heap
  | .call line name arguments => do
    let values ← Run.forEach eval arguments
    call name values line
  | .index _ target position => do
    let target ← eval target
    let position ← eval position
    Run.await (← Run.read fun state => target.at state.world.heap position)
  | .property _ target name => do
    let target ← eval target
    Run.read fun state => target.property state.world.heap name
  | .list _ items => do
    let values ← Run.forEach eval items
    Run.onHeap fun heap => heap.newList values.toArray
  | .map _ entries => do
    let values ← Run.forEach (fun entry => do
      let key ← Run.render (← eval entry.1)
      let value ← eval entry.2
      pure (key, value)) entries
    Run.onHeap fun heap => heap.newMap (Dictionary.ofList values)
  | .template _ parts => do
    let texts ← Run.forEach (fun
      | .text content => pure content
      | .expr value => do Run.render (← eval value)) parts
    pure (.text (String.join texts))
  | .conditional _ condition yes no => do
    if ← Run.isTrue (← eval condition) then eval yes else eval no

end Interpreter

end EventScript
