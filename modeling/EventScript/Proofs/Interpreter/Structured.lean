import EventScript.Interpreter.Statement

/-!
Structured control flow. Here a run of statements comes to an outcome, and no signal is ever put on
a frame: a loop catches `break` and `continue` of its own body, and a call catches whatever the body
of its function comes to. What has nothing to do with control is done as the engine does it.
-/

namespace EventScript.Structured

/-- What a run of statements comes to. -/
inductive Outcome where
  | normal
  | broke
  | continued
  | returned (value : Value)
  | paused (delay : Nat)

variable {σ : Type}

def inOrder (exec : Statement → Run σ Outcome) : List Statement → Run σ Outcome
  | [] => pure .normal
  | statement :: rest => do
    match ← exec statement with
    | .normal => inOrder exec rest
    | outcome => pure outcome

def chooseBranch (eval : Expr → Run σ Value) (runBlock : Block → Run σ Outcome)
    (otherwise : Option Block) : List (Expr × Block) → Run σ Outcome
  | [] =>
    match otherwise with
    | some body => runBlock body
    | none => pure .normal
  | (condition, body) :: rest => do
    if ← Run.isTrue (← eval condition) then runBlock body
    else chooseBranch eval runBlock otherwise rest

/-- Calls a function of the script. A body that does not return a value gives null. -/
def callFunction (limits : Limits) (runBody : Block → Run σ Outcome) (function : Function)
    (arguments : List Value) (line : Nat) : Run σ Value := do
  let frame ← Run.read (·.frame)
  if limits.depth ≤ frame.depth then Run.fail (.callDepth limits.depth)
  else
    let child := frame.child.bindAll function.parameters arguments
    let (outcome, _) ← Run.inFrame child (runBody function.body)
    match outcome with
    | .returned value => pure value
    | .paused _ => Run.fail (.script "wait is not supported inside functions" line)
    | .normal | .broke | .continued => pure .null

def call (setting : Setting σ) (runBody : Block → Run σ Outcome) (name : String)
    (arguments : List Value) (line : Nat) : Run σ Value :=
  match setting.functions.get? name with
  | some function => callFunction setting.limits runBody function arguments line
  | none => Interpreter.callBuiltin setting.machine name arguments line

/-- What the statement comes to: `eval` evaluates its expressions, `runBlock` runs its blocks, and
`runLoop` runs it as a loop from a state. -/
def execParts (setting : Setting σ) (eval : Expr → Run σ Value) (runBlock : Block → Run σ Outcome)
    (runLoop : LoopState → Run σ Outcome) : Statement → Run σ Outcome
  | .branch _ condition yes alternatives otherwise =>
    chooseBranch eval runBlock otherwise ((condition, yes) :: alternatives)
  | .whileLoop .. => runLoop .whileTrue
  | .repeatLoop _ count _ => do
    let count ← eval count
    runLoop (.counting count.toInteger.toNat)
  | .forLoop _ _ subject _ => do
    let subject ← eval subject
    let items ← Run.read fun state => subject.visited state.world.heap
    runLoop (.visiting items 0)
  | .giveBack _ none => pure (.returned .null)
  | .giveBack _ (some value) => do
    let value ← eval value
    pure (.returned value)
  | .breakOut _ => pure .broke
  | .continueOn _ => pure .continued
  | .wait _ delay => do
    let delay ← eval delay
    pure (.paused (max 1 delay.toInteger.toNat))
  | statement => do
    let nothing {α : Type} (_ : α) : Run σ Flow := pure .completed
    let _ ← Interpreter.execParts setting.manner eval nothing nothing statement
    pure .normal

mutual

def evalWithin (setting : Setting σ) : Nat → Expr → Run σ Value
  | 0, _ => Run.stop setting.manner.beyond
  | room + 1, expr => do
    Run.charge setting.limits
    Interpreter.evalParts (Run.variableValue setting.limits) (evalWithin setting room)
      (call setting fun block => inOrder (execWithin setting room) block.statements) expr
termination_by structural room => room

def execWithin (setting : Setting σ) : Nat → Statement → Run σ Outcome
  | 0, _ => Run.stop setting.manner.beyond
  | room + 1, statement => do
    Run.charge setting.limits
    execParts setting (evalWithin setting room)
      (fun block => inOrder (execWithin setting room) block.statements)
      (loopWithin setting room statement) statement
termination_by structural room => room

def loopWithin (setting : Setting σ) : Nat → Statement → LoopState → Run σ Outcome
  | 0, _, _ => Run.stop setting.manner.beyond
  | room + 1, statement, loop => do
    Run.charge setting.limits
    match ← Interpreter.nextRound (evalWithin setting room) statement loop with
    | none => pure .normal
    | some (body, loop) =>
      match ← inOrder (execWithin setting room) body.statements with
      | .normal | .continued => loopWithin setting room statement loop
      | .broke => pure .normal
      | .returned value => pure (.returned value)
      | .paused delay => pure (.paused delay)
termination_by structural room => room

end

def eval (setting : Setting σ) (expr : Expr) : Run σ Value :=
  Manner.withRoom setting.machine fun room => evalWithin setting room expr

def execBlock (setting : Setting σ) (block : Block) : Run σ Outcome :=
  Manner.withRoom setting.machine fun room => inOrder (execWithin setting room) block.statements

end EventScript.Structured
