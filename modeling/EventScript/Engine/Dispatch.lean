import EventScript.Engine.Basic

/-!
Dispatch: running the handlers of an event or a command, and going on with those that paused. Each
handler runs in a frame of its own, and one that fails does not keep the others from running. One
that is lost does: there is no report then.
-/

namespace EventScript

structure Failure where
  script : String
  error : RunError

structure Report where
  entered : Nat := 0
  suspended : Nat := 0
  failures : List Failure := []
  throttled : Bool := false
  deriving Inhabited

def Report.isClean (report : Report) : Bool := report.failures.isEmpty

inductive Ending where
  | completed
  | suspended
  | failed (error : RunError)

def Report.count (report : Report) (script : Script) (ending : Ending) : Report :=
  let report := { report with entered := report.entered + 1 }
  match ending with
  | .completed => report
  | .suspended => { report with suspended := report.suspended + 1 }
  | .failed error => { report with failures := report.failures ++ [⟨script.name, error⟩] }

def RunError.complaint (script : String) : RunError → String
  | .script message line =>
    "[" ++ script ++ "] script (line " ++ Nat.repr line ++ "): " ++ message
  | .operationLimit limit =>
    "[" ++ script ++ "] script exceeded the operation limit (" ++ Nat.repr limit ++
      ") and was halted"
  | .callDepth limit =>
    "[" ++ script ++ "] script exceeded the maximum call depth (" ++ Nat.repr limit ++
      "); infinite recursion?"

structure Occasion where
  actor : Option Actor := none
  cancellation : Option Nat := none
  parameters : List (String × Value) := []

def Occasion.prepare (occasion : Occasion) (frame : Frame) : Frame :=
  occasion.parameters.foldl (fun frame entry => frame.set entry.1 entry.2)
    { frame with actor := occasion.actor, cancellation := occasion.cancellation }

namespace Engine

variable {σ : Type}

def settingOf (engine : Engine σ) (script : Script) : Setting σ :=
  ⟨script.functions, engine.effects, engine.limits, engine.machine⟩

def runIn (engine : Engine σ) (frame : Frame) (run : Run σ Flow) :
    Except (Stop RunError) Flow × Frame × Engine σ :=
  let (result, state) := run ⟨frame, engine.store, engine.world, []⟩
  (result, state.frame, { engine with store := state.store, world := state.world })

def suspend (engine : Engine σ) (continuation : Continuation) : Engine σ :=
  let engine := engine.report .trace ("[" ++ continuation.script.name ++ "] waiting " ++
    Nat.repr continuation.delay ++ " tick(s)")
  let (entries, scheduler) := engine.scheduler.accept continuation
  { engine.reportAll entries with scheduler }

def fail (engine : Engine σ) (script : Script) (error : RunError) : Engine σ :=
  engine.report .warn (error.complaint script.name)

def start (engine : Engine σ) (script : Script) (body : Block) (occasion : Occasion) :
    Except Loss Ending × Engine σ :=
  let (frame, pool) := engine.pool.acquire engine.limits.operations
  let run := Interpreter.execBlock (engine.settingOf script) body
  let (result, frame, engine) := { engine with pool }.runIn (occasion.prepare frame) run
  match result with
  | .ok .completed => (.ok .completed, { engine with pool := engine.pool.release frame })
  | .ok (.suspended delay pending) =>
    let (frame, pool) := engine.pool.detach frame
    (.ok .suspended, { engine with pool }.suspend ⟨script, pending, frame, delay⟩)
  | .error (.failed error) =>
    (.ok (.failed error), { engine with pool := engine.pool.release frame }.fail script error)
  | .error (.lost loss) => (.error loss, engine)

def startAll (occasion : Occasion) :
    List Listener → Report → Engine σ → Except Loss Report × Engine σ
  | [], report, engine => (.ok report, engine)
  | listener :: rest, report, engine =>
    match engine.start listener.script listener.body occasion with
    | (.ok ending, engine) =>
      startAll occasion rest (report.count listener.script ending) engine
    | (.error loss, engine) => (.error loss, engine)

/-- Runs the handlers of an event. If it happened to an actor, the throttle may hold it back; `now`
is the time in nanoseconds. -/
def dispatch (engine : Engine σ) (event : String) (occasion : Occasion) (now : Nat) :
    Except Loss Report × Engine σ :=
  let event := Event.normalize event
  let (held, engine) : Option Actor × Engine σ := match occasion.actor with
    | none => (none, engine)
    | some actor =>
      let (allowed, throttle) := engine.throttle.allow event actor.id now
      (if allowed then none else some actor, { engine with throttle })
  match held with
  | some actor =>
    (.ok { throttled := true }, engine.report .trace ("throttled " ++ event ++ " for " ++ actor.id))
  | none => startAll occasion ((engine.listeners.get? event).getD []) {} engine

/-- What a command's handler finds in its variables: all the words after the command, their number,
and one word for each parameter, or the empty text if there are too few. -/
def commandParameters (command : Command) (words : List String) (heap : Heap) :
    List (String × Value) × Heap :=
  let (list, heap) := heap.newList (words.map Value.text).toArray
  let named := command.parameters.zipIdx.map fun entry =>
    (entry.1, Value.text (words.getD entry.2 ""))
  (("args", list) :: ("args-count", .ofNat words.length) :: named, heap)

def dispatchCommand? (engine : Engine σ) (name : String) (actor : Option Actor)
    (words : List String) : Option (Except Loss Report × Engine σ) :=
  (engine.command? name).map fun entry =>
    let (parameters, heap) := commandParameters entry.command words engine.world.heap
    let engine := { engine with world := { engine.world with heap } }
    let (ending, engine) := engine.start entry.script entry.command.body { actor, parameters }
    (ending.map (({} : Report).count entry.script), engine)

def resume (engine : Engine σ) (continuation : Continuation) : Except Loss Report × Engine σ :=
  let script := continuation.script
  if engine.closed then
    (.ok {}, engine.report .debug ("engine shut down; dropping continuation of " ++ script.name))
  else
    let run := Interpreter.resume (engine.settingOf script) continuation.pending
    let (result, frame, engine) := engine.runIn continuation.frame run
    match result with
    | .ok .completed => (.ok (({} : Report).count script .completed), engine)
    | .ok (.suspended delay pending) =>
      (.ok (({} : Report).count script .suspended), engine.suspend ⟨script, pending, frame, delay⟩)
    | .error (.failed error) =>
      (.ok (({} : Report).count script (.failed error)), engine.fail script error)
    | .error (.lost loss) => (.error loss, engine)

def advance (engine : Engine σ) (ticks : Nat) : List Continuation × Engine σ :=
  match engine.scheduler with
  | .ticks queue =>
    let (released, queue) := queue.advance ticks
    (released, { engine with scheduler := .ticks queue })
  | _ => ([], engine)

def shutdown (engine : Engine σ) (files : Files) : Except StoreError Unit × Engine σ × Files :=
  let (saving, store, files) := engine.store.forceSave files engine.world.heap
  let engine := { engine with
    store, scripts := {}, listeners := {}, commands := {}, throttle := .clear, closed := true }
  (saving.outcome, (engine.reportAll saving.entries).report .info "engine shut down", files)

end Engine

end EventScript
