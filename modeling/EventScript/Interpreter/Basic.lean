import EventScript.Effect
import EventScript.Machine
import EventScript.Program
import EventScript.Script
import EventScript.Store
import EventScript.Text.Search

/-!
Running scripts: the limits of a run, the ways in which it fails, the work that a pause leaves
behind, and the state that a run moves through. A run gives a result, fails or is lost, and leaves a
state in any case.
-/

namespace EventScript

structure Limits where
  operations : Nat := 50000
  depth : Nat := 64
  actorPrefix : String := "player-"

inductive RunError where
  | script (message : String) (line : Nat)
  | operationLimit (limit : Nat)
  | callDepth (limit : Nat)
  deriving DecidableEq, Repr

def RunError.message : RunError → String
  | .script message line => message ++ " (line " ++ Nat.repr line ++ ")"
  | .operationLimit limit => "operation limit of " ++ Nat.repr limit ++ " exceeded"
  | .callDepth limit => "maximum call depth of " ++ Nat.repr limit ++ " exceeded"

inductive LoopState where
  | whileTrue
  | counting (remaining : Nat)
  | visiting (items : List Value) (next : Nat)

inductive Pending where
  | block (statements : List Statement) (next : Nat)
  /-- The loop at a position of a block. Its current round is the work just before this entry. -/
  | loop (statements : List Statement) (index : Nat) (state : LoopState)

/-- How a run of statements ended: there is nothing left to do, or it pauses for some ticks with
work left over, innermost first. -/
inductive Flow where
  | completed
  | suspended (delay : Nat) (pending : List Pending)

/-- What a run did. Writes to the store and effects are what others can see of it. -/
inductive Deed where
  | charged
  | wrote (key : String) (value : Value)
  | performed (effect : String) (arguments : List Value)
  deriving DecidableEq

structure RunState (σ : Type) where
  frame : Frame
  store : Store
  world : World σ
  deeds : List Deed := []

def Run (σ α : Type) : Type := RunState σ → Except (Stop RunError) α × RunState σ

namespace Run

variable {σ α β : Type}

@[always_inline, inline]
protected def bind (run : Run σ α) (next : α → Run σ β) : Run σ β := fun state =>
  match run state with
  | (.ok result, state) => next result state
  | (.error stop, state) => (.error stop, state)

@[always_inline]
instance : Monad (Run σ) where
  pure result := fun state => (.ok result, state)
  bind := Run.bind

def fail (error : RunError) : Run σ α := fun state => (.error (.failed error), state)

@[inline]
def read (view : RunState σ → α) : Run σ α := fun state => (.ok (view state), state)

@[inline]
def modify (change : RunState σ → RunState σ) : Run σ Unit := fun state => (.ok (), change state)

def modifyFrame (change : Frame → Frame) : Run σ Unit :=
  modify fun state => { state with frame := change state.frame }

def await (outcome : Option α) : Run σ α := fun state =>
  match outcome with
  | some result => (.ok result, state)
  | none => (.error (.lost .blocked), state)

def onHeap (compute : Heap → α × Heap) : Run σ α := fun state =>
  let (result, heap) := compute state.world.heap
  (.ok result, { state with world := { state.world with heap } })

def render (value : Value) : Run σ String := read fun state => value.render state.world.heap

def isTrue (value : Value) : Run σ Bool := read fun state => value.isTrue state.world.heap

/-- Charges one operation. The run fails when the budget is used up; an operation that finds the
budget empty is not paid for. -/
def charge (limits : Limits) : Run σ Unit := fun state =>
  let deeds := if state.frame.budget = 0 then state.deeds else .charged :: state.deeds
  let state := { state with frame := { state.frame with budget := state.frame.budget - 1 }, deeds }
  if state.frame.budget = 0 then (.error (.failed (.operationLimit limits.operations)), state)
  else (.ok (), state)

def stop (ending : RunState σ → Stop RunError × RunState σ) : Run σ α := fun state =>
  let (stop, state) := ending state
  (.error stop, state)

def stored (key : String) : Run σ Value := read fun state => state.store.get key

def writeStore (key : String) (value : Value) : Run σ Unit := modify fun state =>
  { state with store := state.store.set key value, deeds := .wrote key value :: state.deeds }

def incrementStore (key : String) (amount : Double) : Run σ Unit := modify fun state =>
  let (sum, store) := state.store.increment key amount
  { state with store, deeds := .wrote key sum :: state.deeds }

def perform (handler : Handler σ) (effect : String) (arguments : List Value) (line : Nat) :
    Run σ Unit := fun state =>
  let (result, frame, world) := handler state.frame.actor arguments state.frame state.world
  let state := { state with frame, world, deeds := .performed effect arguments :: state.deeds }
  match result with
  | .ok () => (.ok (), state)
  | .error reason =>
    (.error (.failed (.script ("Effect '" ++ effect ++ "' failed: " ++ reason) line)), state)

/-- Reads a variable. A name that starts with the actor's prefix and has no value yet makes all the
attributes of the actor known first. -/
def variableValue (limits : Limits) (name : String) : Run σ Value := fun state =>
  let value := (state.frame.get? name).getD .null
  if !value.isNull then (.ok value, state)
  else if !state.frame.injected && Text.beginsWith name limits.actorPrefix then
    let frame := state.frame.inject limits.actorPrefix
    (.ok ((frame.get? name).getD .null), { state with frame })
  else (.ok .null, state)

/-- Runs the body of a function in a frame of its own, and gives the frame that the body leaves. The
caller's frame is as before, except that what the body spent is spent for the caller too. -/
def inFrame (frame : Frame) (body : Run σ α) : Run σ (α × Frame) := fun state =>
  let (result, after) := body { state with frame }
  let budget := min state.frame.budget after.frame.budget
  let caller := { after with frame := { state.frame with budget } }
  match result with
  | .ok result => (.ok (result, after.frame), caller)
  | .error stop => (.error stop, caller)

def forEach (run : α → Run σ β) : List α → Run σ (List β)
  | [] => pure []
  | item :: rest => do
    let result ← run item
    let results ← forEach run rest
    pure (result :: results)

end Run

end EventScript
