import EventScript.Interpreter.Expression

/-!
What a statement does, and how a block, a loop and a paused handler go on. The budget bounds every
run: each statement, each round of a loop and each expression is charged one operation before
anything else, so whatever happens inside needs a smaller budget.

A script can be run in different manners. The engine runs scripts in one manner only, that of their
setting.
-/

namespace EventScript

/-- A manner of running scripts: what stays the same during a run, and the points at which one
manner differs from another. -/
structure Manner (σ : Type) extends Setting σ where
  readVariable : String → Run σ Value
  enter : Frame → Frame
  /-- What a `wait` for some ticks comes to outside functions. -/
  pause : Nat → Flow
  beyond : RunState σ → Stop RunError × RunState σ

def Flow.pause (delay : Nat) : Flow := .suspended (max 1 delay) []

def Setting.manner {σ : Type} (setting : Setting σ) : Manner σ where
  toSetting := setting
  readVariable := Run.variableValue setting.limits
  enter := Frame.child
  pause := .pause
  beyond state := (.lost .unfollowed, state)

namespace Interpreter

variable {σ : Type}

/-- Runs statements in a row until a control signal is up. `rest` are the statements from position
`index` on. A pause leaves the statements behind it to be done. -/
def inOrder (exec : Nat → Statement → Run σ Flow) (statements : List Statement) :
    Nat → List Statement → Run σ Flow
  | _, [] => pure .completed
  | index, statement :: rest => do
    if ← Run.read (·.frame.interrupted) then pure .completed
    else
      match ← exec index statement with
      | .completed => inOrder exec statements (index + 1) rest
      | .suspended delay pending =>
        if rest.isEmpty then pure (.suspended delay pending)
        else pure (.suspended delay (pending ++ [.block statements (index + 1)]))

/-- Closes a round of a loop: takes the signals that belong to the loop off the frame, and tells
whether the loop goes on. -/
def afterRound : Run σ Bool := fun state =>
  if state.frame.breaking then
    (.ok false, { state with frame := { state.frame with breaking := false } })
  else
    let frame := { state.frame with continuing := false }
    (.ok !frame.returning, { state with frame })

def nextRound (eval : Expr → Run σ Value) (statement : Statement) (loop : LoopState) :
    Run σ (Option (Block × LoopState)) :=
  match statement, loop with
  | .whileLoop _ condition body, .whileTrue => do
    if ← Run.isTrue (← eval condition) then pure (some (body, .whileTrue)) else pure none
  | .repeatLoop _ _ body, .counting remaining =>
    pure (if remaining = 0 then none else some (body, .counting (remaining - 1)))
  | .forLoop _ name _ body, .visiting items next =>
    match items[next]? with
    | none => pure none
    | some item => do
      Run.modifyFrame (·.set name item)
      pure (some (body, .visiting items (next + 1)))
  | statement, _ =>
    Run.fail (.script ("cannot resume " ++ statement.describe ++ " as a loop") statement.line)

def chooseBranch (eval : Expr → Run σ Value) (runBlock : Block → Run σ Flow)
    (otherwise : Option Block) : List (Expr × Block) → Run σ Flow
  | [] =>
    match otherwise with
    | some body => runBlock body
    | none => pure .completed
  | (condition, body) :: rest => do
    if ← Run.isTrue (← eval condition) then runBlock body
    else chooseBranch eval runBlock otherwise rest

def execParts (manner : Manner σ) (eval : Expr → Run σ Value) (runBlock : Block → Run σ Flow)
    (runLoop : LoopState → Run σ Flow) : Statement → Run σ Flow
  | .assign _ name value => do
    let value ← eval value
    Run.modifyFrame (·.set name value)
    pure .completed
  | .compound _ name op value => do
    let current ← manner.readVariable name
    let change ← eval value
    let result ← Run.onHeap (op.apply current change)
    Run.modifyFrame (·.set name result)
    pure .completed
  | .store _ key value => do
    let key ← Run.render (← eval key)
    let value ← eval value
    Run.writeStore key value
    pure .completed
  | .storeCompound _ key op value => do
    let key ← Run.render (← eval key)
    let change ← eval value
    if op = .add then Run.incrementStore key change.toNumber
    else
      let current ← Run.stored key
      let result ← Run.onHeap (op.apply current change)
      Run.writeStore key result
    pure .completed
  | .effect line name arguments =>
    match manner.effects.get? name with
    | none => Run.fail (.script ("Unknown effect: " ++ name) line)
    | some handler => do
      let values ← Run.forEach eval arguments
      Run.perform handler name values line
      pure .completed
  | .branch _ condition yes alternatives otherwise =>
    chooseBranch eval runBlock otherwise ((condition, yes) :: alternatives)
  | .whileLoop .. => runLoop .whileTrue
  | .repeatLoop _ count _ => do
    let count ← eval count
    runLoop (.counting count.toInteger.toNat)
  | .forLoop _ _ subject _ => do
    let subject ← eval subject
    let items ← Run.read fun state => subject.visited state.world.heap
    runLoop (.visiting items 0)
  | .giveBack _ value => do
    let value ← match value with
      | some value => eval value
      | none => pure .null
    Run.modifyFrame fun frame => { frame with returnValue := value, returning := true }
    pure .completed
  | .breakOut _ => do
    Run.modifyFrame fun frame => { frame with breaking := true }
    pure .completed
  | .continueOn _ => do
    Run.modifyFrame fun frame => { frame with continuing := true }
    pure .completed
  | .evaluate _ value => do
    let _ ← eval value
    pure .completed
  | .wait _ delay => do
    let delay ← eval delay
    pure (manner.pause delay.toInteger.toNat)

end Interpreter

namespace Manner

open Interpreter

variable {σ : Type}

mutual

/-- Evaluates an expression. The number bounds how many operations may be charged one inside the
other. -/
def evalWithin (manner : Manner σ) : Nat → Expr → Run σ Value
  | 0, _ => Run.stop manner.beyond
  | room + 1, expr => do
    Run.charge manner.limits
    evalParts manner.readVariable (evalWithin manner room)
      (call manner.toSetting manner.enter fun block =>
        inOrder (execWithin { manner with pause := .pause } room block.statements)
          block.statements 0 block.statements) expr

def execWithin (manner : Manner σ) : Nat → List Statement → Nat → Statement → Run σ Flow
  | 0, _, _, _ => Run.stop manner.beyond
  | room + 1, statements, index, statement => do
    Run.charge manner.limits
    execParts manner (evalWithin manner room)
      (fun block => inOrder (execWithin manner room block.statements) block.statements 0
        block.statements)
      (fun loop => loopWithin manner room statements index statement loop) statement

def loopWithin (manner : Manner σ) :
    Nat → List Statement → Nat → Statement → LoopState → Run σ Flow
  | 0, _, _, _, _ => Run.stop manner.beyond
  | room + 1, statements, index, statement, loop => do
    Run.charge manner.limits
    match ← nextRound (evalWithin manner room) statement loop with
    | none => pure .completed
    | some (body, loop) =>
      match ← inOrder (execWithin manner room body.statements) body.statements 0
          body.statements with
      | .suspended delay pending =>
        pure (.suspended delay (pending ++ [.loop statements index loop]))
      | .completed =>
        if ← afterRound then loopWithin manner room statements index statement loop
        else pure .completed

end

/-- More room than the budget of the frame can fill, unless the host raises it by more than the
machine has patience for. -/
def roomFor (machine : Machine) (state : RunState σ) : Nat :=
  state.frame.budget + 1 + machine.patience

def withRoom {α : Type} (machine : Machine) (run : Nat → Run σ α) : Run σ α := fun state =>
  run (roomFor machine state) state

def eval (manner : Manner σ) (expr : Expr) : Run σ Value :=
  withRoom manner.machine fun room => manner.evalWithin room expr

def execFrom (manner : Manner σ) (statements : List Statement) (next : Nat) : Run σ Flow :=
  withRoom manner.machine fun room =>
    inOrder (manner.execWithin room statements) statements next (statements.drop next)

def execBlock (manner : Manner σ) (block : Block) : Run σ Flow :=
  manner.execFrom block.statements 0

def resumeOne (manner : Manner σ) : Pending → Run σ Flow
  | .block statements next => manner.execFrom statements next
  | .loop statements index loop => do
    if ← afterRound then
      match statements[index]? with
      | some statement =>
        withRoom manner.machine fun room => manner.loopWithin room statements index statement loop
      | none => pure .completed
    else pure .completed

/-- Goes on with a paused handler. A new pause leaves its own work before what was left already. -/
def resume (manner : Manner σ) : List Pending → Run σ Flow
  | [] => pure .completed
  | entry :: rest => do
    match ← manner.resumeOne entry with
    | .suspended delay pending => pure (.suspended delay (pending ++ rest))
    | .completed => resume manner rest

end Manner

namespace Interpreter

variable {σ : Type}

def eval (setting : Setting σ) (expr : Expr) : Run σ Value := setting.manner.eval expr

def execBlock (setting : Setting σ) (block : Block) : Run σ Flow := setting.manner.execBlock block

def resume (setting : Setting σ) (pending : List Pending) : Run σ Flow :=
  setting.manner.resume pending

end Interpreter

end EventScript
