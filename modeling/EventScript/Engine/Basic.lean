import EventScript.Event.Throttle
import EventScript.Interpreter.Statement
import EventScript.Settings
import EventScript.Store.DataFile
import EventScript.TickQueue

/-!
The engine: the scripts that are loaded, two indices made from them, and what their handlers share.
One index lists the handlers of each event, by script in ascending order of the names and then in
the order of the source. The other has one command for each name and alias; a later script wins over
an earlier one, and within a script a name wins over an alias.
-/

namespace EventScript

structure Continuation where
  script : Script
  pending : List Pending
  frame : Frame
  delay : Nat

inductive Scheduler where
  | ticks (queue : TickQueue Continuation)
  | timers (handed : List Continuation)
  | none

namespace Scheduler

def accept (scheduler : Scheduler) (continuation : Continuation) : List LogEntry × Scheduler :=
  let name := continuation.script.name
  match scheduler with
  | .ticks queue =>
    let due := queue.dueAfter continuation.delay
    ([⟨.trace, "continuation of " ++ name ++ " due at tick " ++ Nat.repr due⟩],
      .ticks (queue.schedule continuation.delay continuation))
  | .timers handed => ([], .timers (handed ++ [continuation]))
  | .none => ([⟨.warn, "no async runtime; dropping continuation of " ++ name⟩], .none)

end Scheduler

structure Listener where
  script : Script
  body : Block

structure CommandEntry where
  script : Script
  command : Command

structure Engine (σ : Type) where
  scripts : Dictionary Script := {}
  listeners : Dictionary (List Listener) := {}
  commands : Dictionary CommandEntry := {}
  throttle : Event.Throttle := {}
  store : Store := {}
  effects : Effects σ := {}
  limits : Limits := {}
  machine : Machine := .strict
  extension : String := "fk"
  pool : FramePool := {}
  scheduler : Scheduler := .ticks {}
  /-- Whether the engine was shut down and nothing was loaded since. -/
  closed : Bool := false
  world : World σ

namespace Engine

variable {σ : Type}

def withSettings (engine : Engine σ) (settings : Settings) : Engine σ :=
  { engine with
    limits := settings.limits
    extension := String.ofList (settings.scriptExtension.toList.dropWhile (· == '.')) }

def report (engine : Engine σ) (level : Level) (message : String) : Engine σ :=
  { engine with world := engine.world.report level message }

def reportAll (engine : Engine σ) (entries : List LogEntry) : Engine σ :=
  entries.foldl (fun engine entry => engine.report entry.level entry.message) engine

def orderedScripts (engine : Engine σ) : List Script := engine.scripts.sorted.map (·.2)

def indexListeners (index : Dictionary (List Listener)) (script : Script) :
    Dictionary (List Listener) :=
  script.handlers.entries.foldl (fun index entry =>
    let earlier := (index.get? entry.1).getD []
    index.put entry.1 (earlier ++ entry.2.map fun handler => ⟨script, handler.body⟩)) index

def commandsOf (script : Script) : List Command :=
  (script.commands.entries.map (·.2)).mergeSort fun left right => decide (left.line ≤ right.line)

/-- Adds the commands of a script to an index: first the aliases, then the names. -/
def indexCommands (index : Dictionary CommandEntry) (script : Script) : Dictionary CommandEntry :=
  let commands := commandsOf script
  let aliases := commands.flatMap fun command =>
    command.aliases.map fun name => (name, command)
  let names := commands.map fun command => (command.name, command)
  (aliases ++ names).foldl (fun index entry =>
    index.put (Text.lower entry.1) ⟨script, entry.2⟩) index

def rebuild (engine : Engine σ) : Engine σ :=
  let listeners := engine.orderedScripts.foldl indexListeners {}
  let commands := engine.orderedScripts.foldl indexCommands {}
  let engine := { engine with listeners, commands, throttle := .clear, closed := false }
  engine.report .debug ("indexed " ++ Nat.repr listeners.size ++ " event(s) and " ++
    Nat.repr commands.size ++ " command name(s)")

def listenersOf (engine : Engine σ) (event : String) : List Listener :=
  (engine.listeners.get? (Event.normalize event)).getD []

def command? (engine : Engine σ) (name : String) : Option CommandEntry :=
  engine.commands.get? (Text.lower name)

def eventNames (engine : Engine σ) : List String := engine.listeners.sorted.map (·.1)

def commandNames (engine : Engine σ) : List String :=
  let names := engine.commands.entries.map fun entry => Text.lower entry.2.command.name
  names.eraseDups.mergeSort Dictionary.ascending

def registerEffect (engine : Engine σ) (name : String) (handler : Handler σ) : Engine σ :=
  let engine := engine.report .debug ("registered effect '" ++ Text.lower name ++ "'")
  { engine with effects := engine.effects.register name handler }

def unregisterEffect (engine : Engine σ) (name : String) : Bool × Engine σ :=
  if engine.effects.isRegistered name then
    let engine := engine.report .debug ("unregistered effect '" ++ name ++ "'")
    (true, { engine with effects := engine.effects.unregister name })
  else (false, engine)

end Engine

end EventScript
