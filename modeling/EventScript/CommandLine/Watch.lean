import EventScript.CommandLine.Arguments
import EventScript.Engine.Dispatch
import EventScript.Engine.Loading

/-!
Watching over handlers that pause: after an event or a command was fired, timers bring the paused
handlers back, the store is saved from time to time, and at a deadline whoever is still waiting is
left behind. Times are milliseconds since the firing.
-/

namespace EventScript.CommandLine

abbrev Output := Array String

def consoleEffects : Effects Output :=
  let printing (line : Option Actor → String → String) : Handler Output :=
    fun actor values frame world =>
      let line := line actor (Handler.joined world.heap values)
      (.ok (), frame, { world with host := world.host.push line })
  let effects := Effects.core.register "send" (printing fun actor text =>
    match actor with
    | some actor => "[to " ++ actor.id ++ "] " ++ text
    | none => text)
  effects.register "broadcast" (printing fun _ text => "[all] " ++ text)

def longestWait : Nat := 4294967295

inductive Signal where
  | due (continuation : Continuation)
  | autosave
  | deadline

structure Watch where
  engine : Engine Output
  files : Files
  settings : Settings
  now : Nat := 0
  timers : List (Nat × Continuation) := []
  waiting : Nat := 0
  entered : Nat := 0
  failures : Nat := 0
  abandoned : Nat := 0
  nextSave : Option Nat := none
  deadline : Nat := 0

namespace Watch

def timeOf (watch : Watch) (ticks : Nat) : Nat := watch.settings.tickLength * min ticks longestWait

def collect (watch : Watch) : Watch :=
  match watch.engine.scheduler with
  | .timers handed =>
    let timers := handed.map fun continuation =>
      (watch.now + watch.timeOf continuation.delay, continuation)
    { watch with
      timers := watch.timers ++ timers
      engine := { watch.engine with scheduler := .timers [] } }
  | _ => watch

def absorb (watch : Watch) (report : Report) : Watch :=
  { watch with
    waiting := watch.waiting + report.suspended
    entered := watch.entered + report.entered
    failures := watch.failures + report.failures.length }.collect

def receive (watch : Watch) : Signal → Except (Stop StoreError) Unit × Watch
  | .due continuation =>
    let (outcome, engine) := watch.engine.resume continuation
    let watch := { watch with engine, waiting := watch.waiting - 1 }
    match outcome with
    | .ok report => (.ok (), watch.absorb report)
    | .error loss => (.error (.lost loss), watch)
  | .autosave =>
    let (saving, store, files) := watch.engine.store.save watch.files watch.engine.world.heap
    let engine := { watch.engine.reportAll saving.entries with store }
    let nextSave := watch.settings.autosaveInterval?.map fun seconds => watch.now + 1000 * seconds
    let watch := { watch with engine, files, nextSave }
    match saving.outcome with
    | .error error => (.error (.failed error), watch)
    | .ok () =>
      (.ok (), { watch with engine := watch.engine.report .debug "autosaved persistent store" })
  | .deadline => (.ok (), { watch with abandoned := watch.waiting })

def firstTimer? (watch : Watch) : Option (Nat × Continuation) :=
  watch.timers.foldl (fun first timer =>
    match first with
    | none => some timer
    | some earlier => if timer.1 < earlier.1 then some timer else first) none

def dropTimer (time : Nat) : List (Nat × Continuation) → List (Nat × Continuation)
  | [] => []
  | timer :: rest => if timer.1 = time then rest else timer :: dropTimer time rest

def nextOther (watch : Watch) : Nat × Signal :=
  match watch.nextSave with
  | some time => if time ≤ watch.deadline then (time, .autosave) else (watch.deadline, .deadline)
  | none => (watch.deadline, .deadline)

def nextSignal (watch : Watch) : Signal × Watch :=
  let (otherTime, other) := watch.nextOther
  match watch.firstTimer? with
  | some (time, continuation) =>
    if time ≤ otherTime then
      (.due continuation, { watch with now := time, timers := dropTimer time watch.timers })
    else (other, { watch with now := otherTime })
  | none => (other, { watch with now := otherTime })

def isOver (watch : Watch) : Bool := watch.waiting == 0 || watch.abandoned != 0

def start (settings : Settings) (engine : Engine Output) (files : Files) (target : Target)
    (ticks : Nat) : Option (Except Loss Watch) := do
  let actor : Actor := ⟨"console", [("name", .text "Console")]⟩
  let (outcome, engine) ← match target with
    | .event name => some (engine.dispatch name { actor := some actor } 0)
    | .command name words => engine.dispatchCommand? name (some actor) words
  let watch : Watch := { engine, files, settings }
  let watch := { watch with
    deadline := watch.timeOf ticks
    nextSave := settings.autosaveInterval?.map fun seconds => 1000 * seconds }
  some (outcome.map watch.absorb)

/-- How many signals there can be at most: every handler that comes back spends of its budget, and
saves happen at fixed times. -/
def signalBound (watch : Watch) : Nat :=
  let saves := match watch.settings.autosaveInterval? with
    | some seconds => watch.deadline / (1000 * seconds)
    | none => 0
  watch.waiting * (watch.settings.operations + 1) + saves + 1

def follow : Nat → Watch → Except (Stop StoreError) Unit × Watch
  | 0, watch => (.ok (), watch)
  | bound + 1, watch =>
    if watch.isOver then (.ok (), watch)
    else
      let (signal, watch) := watch.nextSignal
      match watch.receive signal with
      | (.error stop, watch) => (.error stop, watch)
      | (.ok (), watch) => follow bound watch

def farewell (watch : Watch) (ticks : Nat) : Watch :=
  if watch.abandoned = 0 then watch
  else
    let line := "  " ++ Nat.repr watch.abandoned ++ " handler(s) still waiting after " ++
      Nat.repr ticks ++ " tick(s)"
    let world := watch.engine.world
    { watch with
      engine := { watch.engine with world := { world with host := world.host.push line } } }

end Watch

end EventScript.CommandLine
